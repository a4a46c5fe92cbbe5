import Mathlib.Algebra.GroupWithZero.Nat
import Mathlib.Data.List.Induction
import Rigor.Proofs.Registry.Failure
import Rigor.Proofs.Risk.Table
import Rigor.Proofs.Table.Latest

/-!
# The first valid row of each category

What the entries of a risk table come to, told from the entries alone. An entry that is no pattern
is invalid, one whose category an earlier entry has is repeated, and the others are the first of
their categories (`Fate`). The table has the first ones in their order, and the log has a record for
each of the others.

* `find?_firsts`: the first that has a category is the first valid entry that has it. The proof
  takes the entries one by one from the front, so that it is known what comes before each of them.
* `pairwise_place_firsts`: the firsts are in the order of the entries.
* `loadEntries_tabulate`: the loop that reads the entries, after any that have been read. The
  invariant is that the rows are the firsts of the entries so far.
* `isFirsts_firsts`: what the firsts are, said of the table as a whole.
* `loaded_firsts`: the main statement, the answers of a register loaded on a file and what is logged
  meanwhile.
-/

namespace Rigor.Risk

open Registry (LoadsTo fresh)

variable {p : Pattern} {category : Category} {before entries : List Json} {entry : Json}

/-! ### Fates of entries -/

/-- The patterns that entries are accepted as, in order. -/
def accepted (entries : List Json) : List Pattern :=
  entries.filterMap fun entry => (Pattern.read .document entry).toOption

/-- What becomes of an entry. -/
inductive Fate where
  /-- It is no pattern. -/
  | invalid
  /-- It is a pattern of a category that an earlier entry has. -/
  | repeated (p : Pattern)
  /-- It is the first pattern of its category. -/
  | first (p : Pattern)

/-- What becomes of an entry after those of `before`. -/
def fateAfter (before : List Json) (entry : Json) : Fate :=
  match Pattern.read .document entry with
  | .issues _ => .invalid
  | .ok p => if ∃ q ∈ accepted before, q.category = p.category then .repeated p else .first p

/-- What becomes of entries after those of `before`. -/
def fatesAfter (before : List Json) : List Json → List Fate
  | [] => []
  | entry :: rest => fateAfter before entry :: fatesAfter (before ++ [entry]) rest

/-- What becomes of the entries of a file. -/
def fates (entries : List Json) : List Fate :=
  fatesAfter [] entries

/-- The row that an entry puts into the table. -/
def Fate.row? : Fate → Option Pattern
  | .first p => some p
  | _ => none

/-- The record that an entry leaves in the log. -/
def Fate.report? : Fate → Option LogEntry
  | .invalid => some ⟨.error, "Invalid risk pattern in <dir>/risk_patterns.yaml"⟩
  | .repeated p =>
    some ⟨.warning, "Duplicate risk category '" ++ p.category.name ++ "', keeping first"⟩
  | .first _ => none

/-- The first pattern of each category, in order. -/
def firsts (entries : List Json) : List Pattern :=
  (fates entries).filterMap Fate.row?

/-- What can become of an entry, and when. -/
theorem fateAfter_cases (before : List Json) (entry : Json) :
    (∃ found, Pattern.read .document entry = .issues found ∧ fateAfter before entry = .invalid) ∨
      (∃ p, Pattern.read .document entry = .ok p ∧
        (∃ q ∈ accepted before, q.category = p.category) ∧ fateAfter before entry = .repeated p) ∨
      ∃ p, Pattern.read .document entry = .ok p ∧
        (¬ ∃ q ∈ accepted before, q.category = p.category) ∧ fateAfter before entry = .first p := by
  unfold fateAfter
  cases Pattern.read .document entry with
  | issues found => exact Or.inl ⟨found, rfl, rfl⟩
  | ok p =>
      by_cases hbefore : ∃ q ∈ accepted before, q.category = p.category
      · exact Or.inr (Or.inl ⟨p, rfl, hbefore, if_pos hbefore⟩)
      · exact Or.inr (Or.inr ⟨p, rfl, hbefore, if_neg hbefore⟩)

/-- The fates of entries in a row are those of the first ones, and then those of the others after
these. -/
theorem fatesAfter_append (before entries more : List Json) :
    fatesAfter before (entries ++ more) =
      fatesAfter before entries ++ fatesAfter (before ++ entries) more := by
  induction entries generalizing before with
  | nil => rw [List.nil_append, List.append_nil, fatesAfter, List.nil_append]
  | cons entry rest ih =>
      rw [List.cons_append, fatesAfter, fatesAfter, ih, List.append_assoc, List.cons_append,
        List.cons_append, List.nil_append]

/-! ### Entries one by one -/

/-- One more entry adds the pattern that it is accepted as, if it is. -/
theorem accepted_concat (before : List Json) (entry : Json) :
    accepted (before ++ [entry]) =
      accepted before ++ (Pattern.read .document entry).toOption.toList := by
  rw [accepted, List.filterMap_append, ← accepted]
  cases h : (Pattern.read .document entry).toOption <;> simp [h]

/-- One more entry adds the row that it puts into the table, if it puts one. -/
theorem firsts_concat (before : List Json) (entry : Json) :
    firsts (before ++ [entry]) = firsts before ++ (fateAfter before entry).row?.toList := by
  have hfates : fates (before ++ [entry]) = fates before ++ [fateAfter before entry] :=
    fatesAfter_append [] before [entry]
  rw [firsts, hfates, List.filterMap_append, ← firsts]
  cases h : (fateAfter before entry).row? <;> simp [h]

/-- The first pattern of a category adds itself. -/
theorem firsts_concat_of_first (hfate : fateAfter before entry = .first p) :
    firsts (before ++ [entry]) = firsts before ++ [p] := by
  rw [firsts_concat, hfate]
  rfl

/-- An entry that puts no row adds nothing. -/
theorem firsts_concat_of_row?_eq_none (hfate : (fateAfter before entry).row? = none) :
    firsts (before ++ [entry]) = firsts before := by
  rw [firsts_concat, hfate]
  exact List.append_nil _

/-- The first that has a category is the first valid entry that has it. -/
theorem find?_firsts (entries : List Json) (category : Category) :
    (firsts entries).find? (·.category = category) =
      (accepted entries).find? (·.category = category) := by
  induction entries using List.reverseRecOn with
  | nil => rfl
  | append_singleton before entry ih =>
      rw [firsts_concat, accepted_concat, List.find?_append, List.find?_append, ih]
      rcases fateAfter_cases before entry with ⟨found, hread, hfate⟩ |
        ⟨p, hread, ⟨q, hq, hqp⟩, hfate⟩ | ⟨p, hread, -, hfate⟩
      · rw [hread, hfate]
        rfl
      · rw [hread, hfate]
        by_cases hcategory : p.category = category
        · -- The category was found before, on both sides.
          have hsome : ((accepted before).find? (·.category = category)).isSome = true :=
            List.find?_isSome.mpr ⟨q, hq, decide_eq_true (hqp.trans hcategory)⟩
          obtain ⟨found, hfound⟩ := Option.isSome_iff_exists.mp hsome
          rw [hfound]
          rfl
        · simp [Fate.row?, Checked.toOption, hcategory]
      · rw [hread, hfate]
        rfl

/-! ### Places -/

/-- The entry is a pattern of the category. -/
def gives (category : Category) (entry : Json) : Bool :=
  (Pattern.read .document entry).toOption.any (·.category = category)

/-- Where the first pattern of the category is among the entries; it is their number if there is
none. -/
def place (entries : List Json) (category : Category) : Nat :=
  entries.findIdx (gives category)

/-- A category has a place among the entries just if one of them is accepted as a pattern of it. -/
theorem place_lt_iff :
    place entries category < entries.length ↔ ∃ q ∈ accepted entries, q.category = category := by
  rw [place, List.findIdx_lt_length]
  simp only [accepted, gives, List.mem_filterMap, Option.any_eq_true, decide_eq_true_eq]
  constructor
  · rintro ⟨entry, hentry, q, hq, hcategory⟩
    exact ⟨q, ⟨entry, hentry, hq⟩, hcategory⟩
  · rintro ⟨q, ⟨entry, hentry, hq⟩, hcategory⟩
    exact ⟨entry, hentry, q, hq, hcategory⟩

/-- The category of a first has a place. -/
theorem place_lt_of_mem_firsts (h : p ∈ firsts entries) :
    place entries p.category < entries.length := by
  have hsome : ((firsts entries).find? (·.category = p.category)).isSome = true :=
    List.find?_isSome.mpr ⟨p, h, decide_eq_true rfl⟩
  rw [find?_firsts, List.find?_isSome] at hsome
  simpa [place_lt_iff] using hsome

/-- The firsts are in the order of their places. -/
theorem pairwise_place_firsts (entries : List Json) :
    (firsts entries).Pairwise fun p q => place entries p.category < place entries q.category := by
  induction entries using List.reverseRecOn with
  | nil => exact List.Pairwise.nil
  | append_singleton before entry ih =>
      have hseen : ∀ p ∈ firsts before, place before p.category < before.length :=
        fun p hp => place_lt_of_mem_firsts hp
      have hold := Table.pairwise_findIdx_concat hseen ih entry
      rcases fateAfter_cases before entry with ⟨_, -, hfate⟩ | ⟨_, -, -, hfate⟩ |
        ⟨q, -, hbefore, hfate⟩
      · rwa [firsts_concat_of_row?_eq_none (by rw [hfate]; rfl)]
      · rwa [firsts_concat_of_row?_eq_none (by rw [hfate]; rfl)]
      · rw [firsts_concat_of_first hfate]
        have hnew : ¬ place before q.category < before.length := by
          rw [place_lt_iff]
          exact hbefore
        exact Table.pairwise_findIdx_concat_of_new hseen ih entry hnew

/-! ### The loop -/

/-- The rows of patterns, each under its category. -/
def tabulate (patterns : List Pattern) : Rows :=
  patterns.map fun p => (p.category, p)

/-- A category is looked up as the first pattern of it. -/
theorem get?_tabulate (patterns : List Pattern) (category : Category) :
    Table.get? (tabulate patterns) category = patterns.find? (·.category = category) := by
  induction patterns with
  | nil => rfl
  | cons p rest ih =>
      by_cases hp : p.category = category
      · simp [tabulate, Table.get?, hp]
      · simpa [tabulate, Table.get?, hp] using ih

/-- The keys of the table are the categories of the patterns. -/
theorem keys_tabulate (patterns : List Pattern) :
    Table.keys (tabulate patterns) = patterns.map Pattern.category := by
  rw [Table.keys, tabulate, List.map_map]
  rfl

/-- The values of the table are the patterns. -/
theorem values_tabulate (patterns : List Pattern) :
    Table.values (tabulate patterns) = patterns := by
  rw [Table.values, tabulate, List.map_map]
  exact List.map_id patterns

/-- The table of first patterns has a category just if an entry is accepted as a pattern of it. -/
theorem has_tabulate_firsts_iff :
    Table.has (tabulate (firsts before)) category = true ↔
      ∃ q ∈ accepted before, q.category = category := by
  rw [Table.has, get?_tabulate, find?_firsts, List.find?_isSome]
  simp

/-- Putting the first pattern of a category makes the table of the first patterns with this one. -/
theorem putNew_tabulate_firsts (hfate : fateAfter before entry = .first p)
    (hhas : Table.has (tabulate (firsts before)) p.category = false) :
    Table.putNew (tabulate (firsts before)) p.category p =
      tabulate (firsts (before ++ [entry])) := by
  rw [firsts_concat_of_first hfate, Table.putNew, hhas, tabulate, tabulate, List.map_append]
  rfl

/-- The loop puts in the firsts, after those of the entries before, and reports the others. -/
theorem loadEntries_tabulate (before entries : List Json) :
    loadEntries entries (tabulate (firsts before)) =
      (tabulate (firsts (before ++ entries)),
        (fatesAfter before entries).filterMap Fate.report?) := by
  induction entries generalizing before with
  | nil => rw [List.append_nil]; rfl
  | cons entry rest ih =>
      have hstep := ih (before ++ [entry])
      rw [List.append_assoc, List.singleton_append] at hstep
      rw [fatesAfter]
      rcases fateAfter_cases before entry with ⟨found, hread, hfate⟩ | ⟨p, hread, hbefore, hfate⟩ |
        ⟨p, hread, hbefore, hfate⟩
      · rw [firsts_concat_of_row?_eq_none (by rw [hfate]; rfl)] at hstep
        simp only [loadEntries, hread, hstep, hfate]
        rfl
      · rw [firsts_concat_of_row?_eq_none (by rw [hfate]; rfl)] at hstep
        simp only [loadEntries, hread, has_tabulate_firsts_iff.mpr hbefore, if_true, hstep, hfate]
        rfl
      · have hhas : Table.has (tabulate (firsts before)) p.category = false :=
          Bool.eq_false_iff.mpr fun hhas => hbefore (has_tabulate_firsts_iff.mp hhas)
        simp only [loadEntries, hread, hhas, if_false, Bool.false_eq_true,
          putNew_tabulate_firsts hfate hhas, hstep, hfate]
        rfl

/-! ### The table -/

/-- The table has the first valid entry of each category, and nothing else, in the order of the
entries. -/
structure IsFirsts (entries : List Json) (table : List Pattern) : Prop where
  /-- A row is the first valid entry of its category. -/
  mem_iff : ∀ p, p ∈ table ↔ (accepted entries).find? (·.category = p.category) = some p
  /-- The rows are in the order of these entries. -/
  ordered : table.Pairwise fun p q => place entries p.category < place entries q.category
  /-- No category comes twice. -/
  nodup : (table.map Pattern.category).Nodup

/-- No category comes twice among the first patterns. -/
theorem nodup_map_category_firsts (entries : List Json) :
    ((firsts entries).map Pattern.category).Nodup := by
  apply List.pairwise_map.mpr
  apply (pairwise_place_firsts entries).imp
  intro p q hlt heq
  rw [heq] at hlt
  exact Nat.lt_irrefl _ hlt

/-- The firsts are what their name says. -/
theorem isFirsts_firsts (entries : List Json) : IsFirsts entries (firsts entries) where
  mem_iff := by
    intro p
    rw [← find?_firsts]
    constructor
    · intro hp
      have hkeys : (Table.keys (tabulate (firsts entries))).Nodup := by
        rw [keys_tabulate]
        exact nodup_map_category_firsts entries
      rw [← get?_tabulate]
      exact Table.get?_of_mem hkeys (List.mem_map.mpr ⟨p, hp, rfl⟩)
    · exact List.mem_of_find?_eq_some
  ordered := pairwise_place_firsts entries
  nodup := nodup_map_category_firsts entries

/-- The size of the table is the number of the patterns and the sum of their keywords. -/
theorem ofRows_tabulate (patterns : List Pattern) :
    Stats.ofRows (tabulate patterns) =
      ⟨patterns.length, (patterns.map fun p => p.keywords.length).sum⟩ := by
  rw [Stats.ofRows, values_tabulate, tabulate, List.length_map, List.sum_eq_foldl_nat,
    List.foldl_map]

/-! ### Registers -/

/-- What reading a file with entries comes to. -/
theorem loader_data {content : Json}
    (h : DefinitionFile.entries "patterns" content = .ok entries) :
    loader (.data content) [] = ⟨tabulate (firsts entries),
      (fates entries).filterMap Fate.report? ++
        [⟨.info, "Loaded " ++ Text.decimal (firsts entries).length ++ " risk categories"⟩],
      none⟩ := by
  have hloop : loadEntries entries [] = _ := loadEntries_tabulate [] entries
  have hlength : (tabulate (firsts entries)).length = (firsts entries).length := List.length_map _
  simp only [loader, loadListed, h, hloop, List.nil_append, hlength]
  rfl

/-- A file whose entries can be read is loaded, and this is what it comes to. -/
theorem load_fresh_data {content : Json}
    (h : DefinitionFile.entries "patterns" content = .ok entries) :
    Register.load (fresh (.data content)) =
      ⟨.ok (), ⟨.data content, tabulate (firsts entries), true⟩,
        (fates entries).filterMap Fate.report? ++
          [⟨.info, "Loaded " ++ Text.decimal (firsts entries).length ++ " risk categories"⟩]⟩ := by
  have hfault : (loader (fresh (.data content) : Register).file []).fault = none := by
    rw [fresh, loader_data h]
  rw [Register.load, Registry.load_of_no_fault rfl hfault, fresh, loader_data h]

/-- **The first valid row of each category**: a register that is loaded on a file without a fault
gives its answers from the first valid entry of each category, whatever entries stand before,
between and after these. The log reports the invalid and the repeated ones, in their order. -/
theorem loaded_firsts (content : Json)
    (h : (Register.load (fresh (.data content))).result = .ok ()) :
    let r := (Register.load (fresh (.data content))).state
    ∃ entries table, DefinitionFile.entries "patterns" content = .ok entries ∧
      IsFirsts entries table ∧
      (∀ category, (Register.get category r).result =
        .ok ((accepted entries).find? (·.category = category))) ∧
      (Register.list r).result = .ok table ∧
      (Register.count r).result = .ok table.length ∧
      (Register.stats r).result =
        .ok ⟨table.length, (table.map fun p => p.keywords.length).sum⟩ ∧
      (Register.load (fresh (.data content))).logs =
        (fates entries).filterMap Fate.report? ++
          [⟨.info, "Loaded " ++ Text.decimal table.length ++ " risk categories"⟩] := by
  intro r
  cases hentries : DefinitionFile.entries "patterns" content with
  | error fault =>
      have hfault : (loader (.data content) []).fault = some fault := by
        simp only [loader, loadListed, hentries]
      rw [Register.load, Registry.result_load_fresh hfault] at h
      cases h
  | ok entries =>
      have hload := load_fresh_data hentries
      have hloads : LoadsTo loader r (tabulate (firsts entries)) := by
        have hagain : Registry.load loader r = ⟨.ok (), r, []⟩ :=
          Registry.load_of_loaded (by simp only [r, hload])
        constructor
        · rw [hagain]
        · rw [hagain]
          simp only [r, hload]
      refine ⟨entries, firsts entries, rfl, isFirsts_firsts entries, fun category => ?_, ?_, ?_, ?_,
        by rw [hload]⟩
      · rw [← find?_firsts, ← get?_tabulate]
        exact (Registry.Answers.consult (Table.get? · category) r hloads).1
      · have hlist := (Registry.Answers.consult Table.values r hloads).1
        rwa [values_tabulate] at hlist
      · have hcount := (Registry.Answers.consult List.length r hloads).1
        rwa [tabulate, List.length_map] at hcount
      · have hstats := (Registry.Answers.consult Stats.ofRows r hloads).1
        rwa [ofRows_tabulate] at hstats

/-- Data with an entry that is no row before the first row of a category, and a second row of this
category between it and the row of another one. -/
def crowded : Json :=
  .obj [("patterns", .arr [.null, packagedRow "security" 4 "Secrets" [" Key", "seal"],
    packagedRow "security" 6 "More secrets" ["key"], packagedRow "financial" 3 "Money" ["pay"]])]

/-- What a register loaded on these data has, and what it has logged. -/
theorem loaded_firsts_crowded :
    (Register.load (fresh (.data crowded))).result = .ok () ∧
      let r := (Register.load (fresh (.data crowded))).state
      (Register.get .security r).result =
          .ok (some ⟨.security, ["key", "seal"], .integrationTests, "Secrets"⟩) ∧
        (Register.get .distributed r).result = .ok none ∧
        (Register.stats r).result = .ok ⟨2, 3⟩ ∧
        (Register.load (fresh (.data crowded))).logs = [reportInvalid, reportDuplicate .security,
          ⟨.info, "Loaded 2 risk categories"⟩] := by
  have hload : (Register.load (fresh (.data crowded))).result = .ok () := rfl
  refine ⟨hload, ?_⟩
  intro r
  obtain ⟨entries, table, hentries, -, hget, hlist, -, hstats, hlogs⟩ :=
    loaded_firsts crowded hload
  obtain rfl := Except.ok.inj hentries
  have htable : table = [⟨.security, ["key", "seal"], .integrationTests, "Secrets"⟩,
      ⟨.financial, ["pay"], .unitTests, "Money"⟩] := (Except.ok.inj hlist).symm
  refine ⟨?_, ?_, ?_, ?_⟩
  · rw [hget]
    rfl
  · rw [hget]
    rfl
  · rw [hstats, htable]
    rfl
  · rw [hlogs, htable]
    rfl

end Rigor.Risk
