import Mathlib.Data.List.Flatten
import Rigor.Proofs.Risk.Answers
import Rigor.Proofs.Risk.Finding
import Rigor.Proofs.Risk.Table
import Rigor.Proofs.Text.Lower

/-!
# Surrounding text hides no risk

A text that contains another one is found to risk at least as much, as long as no keyword has a
sigma in it. For other keywords this fails: a capital sigma at the end of a text is a final one, and
no more so if the text goes on.

* `hits_sublist`: what a row is hit by, it is also hit by in a larger text.
* `rowsHit_sublist`: so the rows that are hit are hit in a larger text, too.
* `found_of_surrounded`: the same for the answers of a register, that is for what is found of each
  category, for the categories found, and for the level recommended.
-/

namespace Rigor.Risk

open Registry (LoadsTo)
open Text (IsSigmaFree lower toLower)

/-- A table without sigmas in its keywords. -/
def SigmaFree (rows : Rows) : Prop :=
  ∀ p ∈ Table.values rows, ∀ keyword ∈ p.keywords, IsSigmaFree keyword.toList

variable {rows : Rows} {p : Pattern} {code whole : String}

/-- A weaker condition keeps all that a stronger one keeps, in the same order. -/
theorem filter_sublist_filter {α : Type} {p q : α → Bool} {l : List α}
    (h : ∀ a ∈ l, p a = true → q a = true) : (l.filter p).Sublist (l.filter q) := by
  have hboth : l.filter p = (l.filter q).filter p := by
    rw [List.filter_filter]
    refine List.filter_congr fun a ha => ?_
    cases hp : p a with
    | false => rfl
    | true => rw [h a ha hp]; rfl
  rw [hboth]
  exact List.filter_sublist

/-- Without sigmas among the keywords, what is hit in a text is hit in any text around it. -/
theorem hits_sublist (hfree : ∀ keyword ∈ p.keywords, IsSigmaFree keyword.toList)
    (h : code.toList <:+: whole.toList) :
    (p.hits (toLower code)).Sublist (p.hits (toLower whole)) := by
  refine filter_sublist_filter fun keyword hkeyword hfound => ?_
  rw [Text.occursIn_iff, toLower, String.toList_ofList] at hfound ⊢
  exact Text.infix_lower_of_infix (hfree keyword hkeyword) hfound h

/-- So is every row that is hit. -/
theorem rowsHit_sublist (hfree : SigmaFree rows) (h : code.toList <:+: whole.toList) :
    (rowsHit rows code).Sublist (rowsHit rows whole) := by
  refine filter_sublist_filter fun p hp hhit => ?_
  have hsub := hits_sublist (hfree p hp) h
  cases hwhole : p.isHit (toLower whole) with
  | true => rfl
  | false =>
      rw [hits_eq_nil_iff.mpr hwhole, List.sublist_nil, hits_eq_nil_iff, hhit] at hsub
      cases hsub

/-- The keywords found for a category are among those found in any text around, in the same
order. -/
theorem keywordsOf_sublist (hfree : SigmaFree rows) (h : code.toList <:+: whole.toList)
    (category : Category) :
    (keywordsOf category (findings rows code)).Sublist
      (keywordsOf category (findings rows whole)) := by
  rw [keywordsOf_findings, keywordsOf_findings]
  refine List.Sublist.flatMap_right _ fun p hp => ?_
  exact hits_sublist (hfree p (List.mem_filter.mp hp).1) h

/-- A text around another is recommended no lower level. -/
theorem rank_recommend_le (hfree : SigmaFree rows) (h : code.toList <:+: whole.toList) :
    (recommend rows code).rank ≤ (recommend rows whole).rank := by
  obtain ⟨hone, hrows⟩ := rank_recommend_le_iff.mp (Nat.le_refl (recommend rows whole).rank)
  refine rank_recommend_le_iff.mpr ⟨hone, fun p hp => ?_⟩
  exact hrows p ((rowsHit_sublist hfree h).subset hp)

/-- A keyword with a final sigma can be hidden, by a letter after it. -/
example : ∃ rows : Rows, recommend rows "ΑΣ" = .unitTests ∧ recommend rows "ΑΣΑ" = .staticTypes :=
  ⟨[(.financial, ⟨.financial, ["ας"], .unitTests, ""⟩)], by decide +kernel⟩

/-- Plain characters are no sigmas. -/
theorem isSigmaFree_of_plain {word : List Char} (h : ∀ c ∈ word, Text.isPlain c = true) :
    IsSigmaFree word := by
  constructor <;>
  · intro hmem
    have := h _ hmem
    revert this
    decide

/-- No keyword of the packaged table has a sigma. -/
theorem sigmaFree_packaged : SigmaFree (rowsOf packaged) :=
  fun p hp keyword hkeyword => isSigmaFree_of_plain (plain_packaged p hp keyword hkeyword)

/-- **Surrounding text hides no risk**, provided that the table has no sigmas, as is the case for
the packaged one. -/
theorem found_of_surrounded :
    SigmaFree (rowsOf packaged) ∧
      ∀ (r : Register) (rows : Rows), LoadsTo loader r rows → SigmaFree rows →
        ∀ before code after : String, ∃ found foundWhole level levelWhole,
          (Register.find code r).result = .ok found ∧
          (Register.find (before ++ code ++ after) r).result = .ok foundWhole ∧
          (Register.classify code r).result = .ok level ∧
          (Register.classify (before ++ code ++ after) r).result = .ok levelWhole ∧
          (∀ category, (keywordsOf category found).Sublist (keywordsOf category foundWhole)) ∧
          (found.map Match.category).Sublist (foundWhole.map Match.category) ∧
          level.rank ≤ levelWhole.rank := by
  refine ⟨sigmaFree_packaged, fun r rows hr hfree before code after => ?_⟩
  have hinfix : code.toList <:+: (before ++ code ++ after).toList :=
    ⟨before.toList, after.toList, by rw [String.toList_append, String.toList_append]⟩
  refine ⟨findings rows code, findings rows (before ++ code ++ after), recommend rows code,
    recommend rows (before ++ code ++ after), (answers_find _ r hr).1, (answers_find _ r hr).1,
    (answers_classify _ r hr).1, (answers_classify _ r hr).1, keywordsOf_sublist hfree hinfix, ?_,
    rank_recommend_le hfree hinfix⟩
  rw [map_category_findings, map_category_findings]
  exact (rowsHit_sublist hfree hinfix).map _

/-- The packaged table finds a payment among capital sigmas. -/
theorem found_of_surrounded_packaged :
    LoadsTo loader (Registry.fresh packaged) (rowsOf packaged) ∧ SigmaFree (rowsOf packaged) ∧
      ∃ found foundWhole level levelWhole,
        (Register.find "PAYMENT" (Registry.fresh packaged)).result = .ok found ∧
        (Register.find ("ΑΣ" ++ "PAYMENT" ++ "Σ") (Registry.fresh packaged)).result
          = .ok foundWhole ∧
        (Register.classify "PAYMENT" (Registry.fresh packaged)).result = .ok level ∧
        (Register.classify ("ΑΣ" ++ "PAYMENT" ++ "Σ") (Registry.fresh packaged)).result
          = .ok levelWhole ∧
        (∀ category, (keywordsOf category found).Sublist (keywordsOf category foundWhole)) ∧
        (found.map Match.category).Sublist (foundWhole.map Match.category) ∧
        level.rank ≤ levelWhole.rank :=
  ⟨loadsTo_packaged, found_of_surrounded.1,
    found_of_surrounded.2 _ _ loadsTo_packaged found_of_surrounded.1 "ΑΣ" "PAYMENT" "Σ"⟩

end Rigor.Risk
