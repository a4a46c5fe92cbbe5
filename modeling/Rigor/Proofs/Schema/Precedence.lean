import Rigor.Proofs.Schema.Canonical
import Rigor.Proofs.Schema.Detection

/-!
# The order of the formats

The formats are tried in an order, and it matters for two of them only. Mail addresses and addresses
with a scheme have texts in common (`shared`); any other two formats are told apart by an at sign,
by a colon or by the first character of the text (`exists_fits_iff`).

* `filter_table`: a text fits no pattern, one pattern, or those of mail addresses and of addresses
  with a scheme.
* `detectIn_eq_detect_iff`: the main statement, which orders of the table detect the same formats.
  In another order the patterns that a text fits are the same ones in another order, so that only
  two of them can be exchanged.
-/

namespace Rigor.Schema.Format

open Text (Pattern decimalDigits isDecimalDigit withoutFinalBreak)

variable {c : Char} {cs : List Char} {order : List (Format × Pattern)}

/-! ### What tells formats apart -/

/-- A mail address has an at sign. -/
theorem IsMailAddress.at_mem (h : IsMailAddress cs) : '@' ∈ cs := by
  apply List.count_pos_iff.mp
  rw [h.count_at]
  exact Nat.one_pos

/-- An address with a scheme has a colon. -/
theorem IsUrl.colon_mem (h : IsUrl cs) : ':' ∈ cs := by
  obtain ⟨first, scheme, rest, rfl, -⟩ := h
  simp

/-- It begins with a letter. -/
theorem IsUrl.head_isAlpha (h : IsUrl cs) : ∃ c ∈ cs.head?, c.isAlpha = true := by
  obtain ⟨first, scheme, rest, rfl, hfirst, -⟩ := h
  exact ⟨first, rfl, hfirst⟩

/-- A timestamp has no at sign. -/
theorem IsTimestamp.at_not_mem (h : IsTimestamp cs) : '@' ∉ cs := by
  intro hmem
  rcases h.isDecimalDigit_or_mem_marks hmem with hdigit | hmark
  · exact absurd hdigit (by decide +kernel)
  · exact absurd hmark (by decide)

/-- It has a colon. -/
theorem IsTimestamp.colon_mem (h : IsTimestamp cs) : ':' ∈ cs := by
  obtain ⟨moment, fraction, offset, rfl, hmoment, -, -⟩ := h
  have hcolon : ':' ∈ moment := mem_of_mem_filled hmoment (by decide) (by decide) (by decide)
  exact List.mem_append_left _ (List.mem_append_left _ hcolon)

/-- It begins with a decimal digit. -/
theorem IsTimestamp.head_isDecimalDigit (h : IsTimestamp cs) :
    ∃ c ∈ cs.head?, isDecimalDigit c = true := by
  obtain ⟨moment, fraction, offset, rfl, hmoment, -, -⟩ := h
  obtain ⟨first, rest, hfirst, -, rfl⟩ := List.forall₂_cons_left_iff.mp hmoment
  exact ⟨first, rfl, hfirst⟩

/-- No range of decimal digits reaches into the ASCII letters. -/
theorem not_isAlpha_of_isDecimalDigit (h : isDecimalDigit c = true) : c.isAlpha = false := by
  obtain ⟨r, hr, hfirst, hlast⟩ := Text.CodeRanges.has_iff.mp h
  have hranges : ∀ r ∈ decimalDigits, r.2 < 0x41 ∨ 0x7a < r.1 := by decide +kernel
  have hrange := hranges r hr
  by_contra hletter
  have hbounds : 0x41 ≤ c.toNat ∧ c.toNat ≤ 0x7a := by
    have hval : c.val.toNat = c.toNat := rfl
    rw [← isLetter_eq] at hletter
    simp [isLetter, Char.le_def, UInt32.le_iff_toNat_le, hval] at hletter
    omega
  omega

/-- An identifier is no mail address, for want of an at sign. -/
theorem IsUuid.not_isMailAddress (h : IsUuid cs) : ¬ IsMailAddress cs :=
  fun hmail => h.not_mem (by decide) (by decide) hmail.at_mem

/-- It is no address with a scheme, for want of a colon. -/
theorem IsUuid.not_isUrl (h : IsUuid cs) : ¬ IsUrl cs :=
  fun hurl => h.not_mem (by decide) (by decide) hurl.colon_mem

/-- For the same reason it is no timestamp. -/
theorem IsUuid.not_isTimestamp (h : IsUuid cs) : ¬ IsTimestamp cs :=
  fun htimestamp => h.not_mem (by decide) (by decide) htimestamp.colon_mem

/-- A mail address is no timestamp, because of its at sign. -/
theorem IsMailAddress.not_isTimestamp (h : IsMailAddress cs) : ¬ IsTimestamp cs :=
  fun htimestamp => htimestamp.at_not_mem h.at_mem

/-- An address with a scheme is no timestamp, because of its first letter. -/
theorem IsUrl.not_isTimestamp (h : IsUrl cs) : ¬ IsTimestamp cs := by
  intro htimestamp
  obtain ⟨letter, hletter, halpha⟩ := h.head_isAlpha
  obtain ⟨digit, hdigit, hdecimal⟩ := htimestamp.head_isDecimalDigit
  obtain rfl : letter = digit := Option.mem_unique hletter hdigit
  rw [not_isAlpha_of_isDecimalDigit hdecimal] at halpha
  cases halpha

/-! ### The patterns that a text fits -/

/-- The row of mail addresses. -/
def emailRow : Format × Pattern := (.email, emailPattern)

/-- The row of addresses with a scheme. -/
def urlRow : Format × Pattern := (.url, urlPattern)

/-- A text fits at most one pattern, unless it fits those of mail addresses and of addresses with a
scheme. -/
theorem filter_table (cs : List Char) :
    table.filter (·.2.fits cs) = [] ∨ (∃ row, table.filter (·.2.fits cs) = [row]) ∨
      table.filter (·.2.fits cs) = [emailRow, urlRow] := by
  have huuid : uuidPattern.fits cs = true → emailPattern.fits cs = false ∧
      urlPattern.fits cs = false ∧ datetimePattern.fits cs = false := by
    simp only [← Bool.not_eq_true, fits_uuidPattern_iff, fits_emailPattern_iff, fits_urlPattern_iff,
      fits_datetimePattern_iff]
    exact fun h => ⟨h.not_isMailAddress, h.not_isUrl, h.not_isTimestamp⟩
  have hdatetime : datetimePattern.fits cs = true → emailPattern.fits cs = false ∧
      urlPattern.fits cs = false := by
    simp only [← Bool.not_eq_true, fits_emailPattern_iff, fits_urlPattern_iff,
      fits_datetimePattern_iff]
    exact fun h => ⟨fun hmail => hmail.not_isTimestamp h, fun hurl => hurl.not_isTimestamp h⟩
  unfold table
  cases hu : uuidPattern.fits cs with
  | true =>
      obtain ⟨he, hl, hd⟩ := huuid hu
      simp [hu, he, hl, hd]
  | false =>
      cases hd : datetimePattern.fits cs with
      | true =>
          obtain ⟨he, hl⟩ := hdatetime hd
          simp [hu, he, hl, hd]
      | false =>
          cases he : emailPattern.fits cs <;> cases hl : urlPattern.fits cs <;>
            simp [hu, he, hl, hd, emailRow, urlRow]

/-- A mail address that is an address with a scheme as well. -/
def shared : String := "a://b@c.d"

/-- Two rows of the table fit the text that is both. -/
theorem filter_table_shared :
    table.filter (·.2.fits shared.toList) = [emailRow, urlRow] := by
  have huuid : uuidPattern.fits shared.toList = false := by decide +kernel
  have hemail : emailPattern.fits shared.toList = true := by decide +kernel
  have hurl : urlPattern.fits shared.toList = true := by decide +kernel
  have hdatetime : datetimePattern.fits shared.toList = false := by decide +kernel
  simp [table, huuid, hemail, hurl, hdatetime, emailRow, urlRow]

/-- Two patterns have a text in common if they are of the same format or those of mail addresses and
of addresses with a scheme, and not otherwise. -/
theorem exists_fits_iff {row other : Format × Pattern} (hrow : row ∈ table)
    (hother : other ∈ table) :
    (∃ s : String, row.2.fits s.toList = true ∧ other.2.fits s.toList = true) ↔
      row.1 = other.1 ∨ (row.1 = .email ∧ other.1 = .url) ∨
        (row.1 = .url ∧ other.1 = .email) := by
  constructor
  · rintro ⟨s, hfits, hfitsOther⟩
    have hmem : row ∈ table.filter (·.2.fits s.toList) := List.mem_filter.mpr ⟨hrow, hfits⟩
    have hmemOther : other ∈ table.filter (·.2.fits s.toList) :=
      List.mem_filter.mpr ⟨hother, hfitsOther⟩
    rcases filter_table s.toList with hnone | ⟨single, hone⟩ | htwo
    · rw [hnone] at hmem
      cases hmem
    · rw [hone, List.mem_singleton] at hmem hmemOther
      exact Or.inl (by rw [hmem, hmemOther])
    · rw [htwo] at hmem hmemOther
      simp only [List.mem_cons, List.not_mem_nil, or_false] at hmem hmemOther
      rcases hmem with rfl | rfl <;> rcases hmemOther with rfl | rfl <;> simp [emailRow, urlRow]
  · have hspecimen : ∀ row ∈ table, row.2.fits row.1.specimen.toList = true := by decide +kernel
    have hshared : ∀ row ∈ table, row.1 = .email ∨ row.1 = .url →
        row.2.fits shared.toList = true := by decide +kernel
    rintro (hsame | ⟨hemail, hurl⟩ | ⟨hurl, hemail⟩)
    · exact ⟨row.1.specimen, hspecimen row hrow, hsame ▸ hspecimen other hother⟩
    · exact ⟨shared, hshared row hrow (Or.inl hemail), hshared other hother (Or.inr hurl)⟩
    · exact ⟨shared, hshared row hrow (Or.inr hurl), hshared other hother (Or.inl hemail)⟩

/-! ### Other orders of the table -/

/-- To look for a format is to take the first of the rows whose patterns the text fits. -/
theorem detectIn_eq (rows : List (Format × Pattern)) (cs : List Char) :
    detectIn rows cs = ((rows.filter (·.2.fits cs)).head?.map Prod.fst).getD .plain := by
  unfold detectIn
  rw [List.head?_filter]
  cases rows.find? (·.2.fits cs) <;> rfl

/-- Where mail addresses come before addresses with a scheme, a text fits the same patterns in the
same order. -/
theorem filter_eq_of_sublist (h : order.Perm table) (hsub : [emailRow, urlRow].Sublist order)
    (cs : List Char) : order.filter (·.2.fits cs) = table.filter (·.2.fits cs) := by
  have hperm := h.filter (·.2.fits cs)
  rcases filter_table cs with hnone | ⟨single, hone⟩ | htwo
  · rw [hnone] at hperm ⊢
    exact hperm.eq_nil
  · rw [hone] at hperm ⊢
    exact List.perm_singleton.mp hperm
  · -- Both rows are kept, and the permutation has no room for a third one.
    have hfits : ∀ row ∈ [emailRow, urlRow], row.2.fits cs = true := by
      intro row hrow
      rw [← htwo] at hrow
      exact (List.mem_filter.mp hrow).2
    have hkept := hsub.filter (·.2.fits cs)
    rw [List.filter_eq_self.mpr hfits] at hkept
    rw [htwo] at hperm ⊢
    exact (hkept.eq_of_length hperm.length_eq.symm).symm

/-- An order that finds the shared text to be a mail address has mail addresses before addresses
with a scheme. -/
theorem sublist_of_detectIn_shared (h : order.Perm table)
    (hemail : detectIn order shared.toList = .email) : [emailRow, urlRow].Sublist order := by
  have hperm := h.filter (·.2.fits shared.toList)
  rw [filter_table_shared] at hperm
  rw [detectIn_eq] at hemail
  have hkept : order.filter (·.2.fits shared.toList) = [emailRow, urlRow] := by
    rcases hlist : order.filter (·.2.fits shared.toList) with _ | ⟨first, rest⟩
    · rw [hlist] at hemail
      cases hemail
    · rw [hlist] at hemail hperm
      have hmem : first ∈ [emailRow, urlRow] := hperm.subset List.mem_cons_self
      simp only [List.mem_cons, List.not_mem_nil, or_false] at hmem
      rcases hmem with rfl | rfl
      · rw [List.perm_cons] at hperm
        rw [hlist, List.perm_singleton.mp hperm]
      · cases hemail
  rw [← hkept]
  exact List.filter_sublist

/-- **Precedence matters between two formats only.** Two patterns of the table have no text in
common, unless they are of one format or those of mail addresses and of addresses with a scheme. So
an order of the table detects the formats that the given one does if mail addresses come before
addresses with a scheme in it, and in no other case. -/
theorem detectIn_eq_detect_iff :
    (∀ row ∈ table, ∀ other ∈ table,
      (∃ s : String, row.2.fits s.toList = true ∧ other.2.fits s.toList = true) ↔
        row.1 = other.1 ∨ (row.1 = .email ∧ other.1 = .url) ∨
          (row.1 = .url ∧ other.1 = .email)) ∧
    ∀ order : List (Format × Pattern), order.Perm table →
      ((∀ s : String, detectIn order s.toList = detect s) ↔
        [emailRow, urlRow].Sublist order) := by
  refine ⟨fun row hrow other hother => exists_fits_iff hrow hother, fun order h => ⟨?_, ?_⟩⟩
  · intro hsame
    apply sublist_of_detectIn_shared h
    rw [hsame, detect, detectIn_eq, filter_table_shared]
    rfl
  · intro hsub s
    rw [detect, detectIn_eq, detectIn_eq, filter_eq_of_sublist h hsub]

/-- Identifiers and timestamps have nothing in common, and timestamps may come first. -/
theorem detectIn_eq_detect_timestamps :
    let uuidRow := (Format.uuid, uuidPattern)
    let timestampRow := (Format.datetime, datetimePattern)
    (uuidRow ∈ table ∧ timestampRow ∈ table ∧
      ¬ ∃ s : String, uuidPattern.fits s.toList = true ∧ datetimePattern.fits s.toList = true) ∧
    ([timestampRow, uuidRow, emailRow, urlRow].Perm table ∧
      ∀ s : String, detectIn [timestampRow, uuidRow, emailRow, urlRow] s.toList = detect s) := by
  intro uuidRow timestampRow
  have huuid : uuidRow ∈ table := by simp [table, uuidRow]
  have htimestamp : timestampRow ∈ table := by simp [table, timestampRow]
  have hperm : [timestampRow, uuidRow, emailRow, urlRow].Perm table :=
    (List.perm_append_comm : ([timestampRow] ++ [uuidRow, emailRow, urlRow]).Perm _)
  have hsub : [emailRow, urlRow].Sublist [timestampRow, uuidRow, emailRow, urlRow] :=
    .cons _ (.cons _ (.refl _))
  refine ⟨⟨huuid, htimestamp, ?_⟩, hperm, (detectIn_eq_detect_iff.2 _ hperm).mpr hsub⟩
  exact mt (detectIn_eq_detect_iff.1 _ huuid _ htimestamp).mp (by decide)

end Rigor.Schema.Format
