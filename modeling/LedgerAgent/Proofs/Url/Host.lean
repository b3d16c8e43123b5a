/-
Module: LedgerAgent.Proofs.Url.Host
Purpose: What hosts are read as, and that a host's own text is read as that host or not at all.
Main exports: Url.Host.Proper, Url.proper_of_parseHost, Url.parseHost_chars,
  Url.Host.Proper.splitHost, Url.Host.Proper.inner
-/
import LedgerAgent.Proofs.Json.Decoding
import LedgerAgent.Proofs.KeySpelling
import LedgerAgent.Proofs.Url.Address
import LedgerAgent.Url.Parser

namespace LedgerAgent.Url

/-- The hosts of URLs with a special scheme: a name that is looked up as it stands, or an
address. -/
inductive Host.Proper : Host → Prop where
  | domain {name : List Char} (nonempty : name ≠ []) (small : ∀ c ∈ name, Small c)
      (allowed : ∀ c ∈ name, isForbidden c = false) (unnumbered : endsInNumber name = false) :
      Proper (.domain name)
  | ipv4 {n : Nat} (below : n < 2 ^ 32) : Proper (.ipv4 n)
  | ipv6 {ns : List Nat} (eight : ns.length = 8) (below : ∀ n ∈ ns, n < 65536) :
      Proper (.ipv6 ns)

/-! ### Reading hosts -/

/-- Whatever is read as a host is a proper one. -/
theorem proper_of_parseHost {text : List Char} {host : Host}
    (read : parseHost text = .ok host) : host.Proper := by
  unfold parseHost at read
  split at read
  · split at read
    · obtain ⟨ns, address, rfl⟩ := Json.map_eq_ok.1 read
      rcases proper_of_parseIpv6 address with ⟨eight, below⟩
      exact .ipv6 eight below
    · cases read
  · split at read
    · cases read
    · split at read
      · cases read
      · next name found =>
        split at read
        · cases read
        · next allowed =>
          split at read
          · cases read
          · next filled =>
            split at read
            · obtain ⟨n, address, rfl⟩ := Json.map_eq_ok.1 read
              exact .ipv4 (lt_of_parseIpv4 address)
            · next unnumbered =>
              cases read
              refine .domain ?_ (small_of_asciiDomain? found) ?_ (by simpa using unnumbered)
              · simpa using filled
              · simpa using allowed

/-- What is not encoded is decoded as itself. -/
theorem percentDecode_cons {c : Char} (unencoded : c ≠ '%') (rest : List Char) :
    percentDecode (c :: rest) = String.utf8EncodeChar c ++ percentDecode rest := by
  rw [percentDecode]
  intro a b others same
  exact absurd same unencoded

/-- Text without a percent sign stands for its own bytes. -/
theorem percentDecode_of_not_mem {cs : List Char} (unencoded : '%' ∉ cs) :
    percentDecode cs = Text.bytes (String.ofList cs) := by
  rw [Text.bytes_ofList]
  induction cs with
  | nil => rfl
  | cons c rest inductionHypothesis =>
      rw [List.mem_cons, not_or] at unencoded
      rw [percentDecode_cons (Ne.symm unencoded.1), inductionHypothesis unencoded.2,
        List.flatMap_cons]

/-- A name that is looked up as it stands is read as itself, or as the address that it is. -/
theorem parseHost_of_small {name : List Char} {host : Host} (small : ∀ c ∈ name, Small c)
    (allowed : ∀ c ∈ name, isForbidden c = false) (read : parseHost name = .ok host) :
    (if endsInNumber name then (parseIpv4 name).map .ipv4 else .ok (.domain name)) =
      .ok host := by
  have unencoded : '%' ∉ name := fun member => absurd (allowed '%' member) (by decide)
  unfold parseHost at read
  split at read
  · exact absurd (allowed '[' List.mem_cons_self) (by decide)
  · rw [percentDecode_of_not_mem unencoded, Text.ofBytes?_bytes] at read
    simp only [String.toList_ofList] at read
    split at read
    · cases read
    · next again found =>
      rw [asciiDomain?_of_small small found] at read
      split at read
      · cases read
      · split at read
        · cases read
        · exact read

/-! ### Hosts as they are written -/

theorem small_of_isDigit {c : Char} (digit : Text.Numeral.isDigit c = true) :
    Small c ∧ isForbidden c = false := by
  have bound := Text.Numeral.isDigit_iff.1 digit
  refine forall_ascii (P := fun c => Text.Numeral.isDigit c = true →
    Small c ∧ isForbidden c = false) ?_ (by omega) digit
  decide

/-- An address of four pieces is small, and allowed in a name. -/
theorem small_ipv4 {n : Nat} {c : Char} (member : c ∈ (Host.ipv4 n).chars) :
    Small c ∧ isForbidden c = false := by
  change c ∈ ['.'].intercalate ((quads n).map (Nat.toDigits 10)) at member
  rcases mem_of_mem_intercalate member with rfl | ⟨part, inside, here⟩
  · exact ⟨⟨by decide, by decide⟩, by decide⟩
  · obtain ⟨quad, -, rfl⟩ := List.mem_map.1 inside
    exact small_of_isDigit (Text.Numeral.isDigit_of_mem_digits here)

/-- The text of a host is read as that host, if at all. -/
theorem parseHost_chars {host again : Host} (proper : host.Proper)
    (read : parseHost host.chars = .ok again) : again = host := by
  cases proper with
  | domain nonempty small allowed unnumbered =>
      have same := parseHost_of_small small allowed read
      rw [unnumbered] at same
      exact (Except.ok.inj same).symm
  | ipv4 below =>
      have same := parseHost_of_small (fun c member => (small_ipv4 member).1)
        (fun c member => (small_ipv4 member).2) read
      rw [endsInNumber_quads, if_pos rfl, parseIpv4_chars below] at same
      exact (Except.ok.inj same).symm
  | @ipv6 ns eight below =>
      change parseHost ('[' :: (ipv6Chars ns ++ [']'])) = .ok again at read
      rw [parseHost] at read
      simp only [List.getLast?_append, List.getLast?_singleton, Option.some_or, if_true,
        List.dropLast_concat, parseIpv6_ipv6Chars eight below] at read
      exact (Except.ok.inj read).symm

/-- A character that ends no authority, and no part of one before the host. -/
def Inner (c : Char) : Prop :=
  32 < c.toNat ∧ c ∉ ['/', '\\', '?', '#', '@']

instance : DecidablePred Inner := fun _ => inferInstanceAs (Decidable (_ ∧ _))

theorem inner_of_allowed {c : Char} (allowed : isForbidden c = false) : Inner c := by
  rw [isForbidden, Bool.or_eq_false_iff, Bool.or_eq_false_iff, List.contains_eq_mem] at allowed
  refine ⟨by simpa using allowed.1.1, ?_⟩
  intro ends
  have forbidden : ∀ d ∈ ['/', '\\', '?', '#', '@'],
      d ∈ ['#', '/', ':', '<', '>', '?', '@', '[', '\\', ']', '^', '|', '%'] :=
    List.all_iff_forall_prop.1 (by decide)
  exact of_decide_eq_false allowed.2 (forbidden c ends)

/-- An address of eight pieces is made of small hexadecimal digits and colons. -/
theorem mem_ipv6Chars {ns : List Nat} {c : Char} (member : c ∈ ipv6Chars ns) :
    c ∈ ":0123456789abcdef".toList := by
  rw [ipv6Chars_eq] at member
  split at member
  · exact mem_colonized member
  · rw [List.mem_append, List.mem_cons, List.mem_cons] at member
    rcases member with before | rfl | rfl | behind
    · exact mem_colonized before
    · decide
    · decide
    · exact mem_colonized behind

/-- Text without brackets is passed over, and inside brackets text with colons. -/
theorem splitHost_append {bracketed : Bool} {part : List Char}
    (bare : ∀ c ∈ part, c ≠ '[' ∧ c ≠ ']' ∧ (c = ':' → bracketed = true)) (rest : List Char) :
    Url.splitHost bracketed (part ++ rest) =
      (part ++ (Url.splitHost bracketed rest).1, (Url.splitHost bracketed rest).2) := by
  induction part with
  | nil => rfl
  | cons c part inductionHypothesis =>
      rw [List.forall_mem_cons] at bare
      obtain ⟨⟨unopened, unclosed, inside⟩, others⟩ := bare
      have goesOn : ¬ (c = ':' && !bracketed) = true := by
        intro ends
        rw [Bool.and_eq_true, decide_eq_true_eq] at ends
        rw [inside ends.1] at ends
        cases ends.2
      rw [List.cons_append, Url.splitHost, if_neg goesOn]
      simp only [if_neg unopened, if_neg unclosed, inductionHypothesis others]
      rfl

namespace Host.Proper

variable {host : Host}

/-- No character of a proper host ends an authority. -/
theorem inner (proper : host.Proper) : ∀ c ∈ host.chars, Inner c := by
  intro c member
  cases proper with
  | domain nonempty small allowed unnumbered => exact inner_of_allowed (allowed c member)
  | ipv4 below => exact inner_of_allowed (small_ipv4 member).2
  | @ipv6 ns eight below =>
      have all : ∀ d ∈ "[]:0123456789abcdef".toList, Inner d :=
        List.all_iff_forall_prop.1 (by decide)
      apply all
      have bracketed : c ∈ '[' :: (ipv6Chars ns ++ [']']) := member
      rw [List.mem_cons, List.mem_append, List.mem_singleton] at bracketed
      rcases bracketed with rfl | inside | rfl
      · decide
      · exact List.mem_cons_of_mem _ (List.mem_cons_of_mem _ (mem_ipv6Chars inside))
      · decide

/-- No proper host is empty. -/
theorem chars_ne_nil (proper : host.Proper) : host.chars ≠ [] := by
  cases proper with
  | domain nonempty small allowed unnumbered => exact nonempty
  | @ipv4 n below =>
      intro empty
      have parts := fields_quads n
      rw [empty] at parts
      simp [Text.fields, quads] at parts
  | ipv6 eight below => exact List.cons_ne_nil _ _

/-- A host is parted from the number behind it. -/
theorem splitHost (proper : host.Proper) {behind : List Char}
    (number : behind = [] ∨ behind.head? = some ':') :
    Url.splitHost false (host.chars ++ behind) = (host.chars, behind) := by
  have ends : Url.splitHost false behind = ([], behind) := by
    rcases number with rfl | colon
    · rfl
    · obtain ⟨rest, rfl⟩ := List.head?_eq_some_iff.1 colon
      rfl
  have named {name : List Char} (allowed : ∀ c ∈ name, isForbidden c = false) :
      Url.splitHost false (name ++ behind) = (name, behind) := by
    rw [splitHost_append, ends, List.append_nil]
    intro c member
    have own := allowed c member
    refine ⟨?_, ?_, ?_⟩
    · rintro rfl
      exact absurd own (by decide)
    · rintro rfl
      exact absurd own (by decide)
    · rintro rfl
      exact absurd own (by decide)
  cases proper with
  | domain nonempty small allowed unnumbered => exact named allowed
  | ipv4 below => exact named fun c member => (small_ipv4 member).2
  | @ipv6 ns eight below =>
      change Url.splitHost false ('[' :: ((ipv6Chars ns ++ [']']) ++ behind)) =
        ('[' :: (ipv6Chars ns ++ [']']), behind)
      have bare : ∀ c ∈ ipv6Chars ns, c ≠ '[' ∧ c ≠ ']' ∧ (c = ':' → true = true) := by
        intro c member
        have digit := mem_ipv6Chars member
        refine ⟨?_, ?_, fun _ => rfl⟩
        · rintro rfl
          exact absurd digit (by decide)
        · rintro rfl
          exact absurd digit (by decide)
      rw [List.append_assoc, List.singleton_append]
      simp [Url.splitHost, splitHost_append bare, ends]

end Host.Proper

end LedgerAgent.Url
