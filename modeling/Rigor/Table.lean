/-!
# Tables that keep their order

A table lists keys with their values in the order in which the keys first came. `put` gives a key a
new value at its old place and `putNew` leaves a key that is there alone; both append a new key.

* `get?_put`: a key has the value put last, and other keys keep theirs.
* `keys_put`: a key that is there stays where it is, and a new one comes last.
* `get?_putNew`, `keys_putNew`: the same for `putNew`, where the value put first stays.
* `get?_of_mem`: where no key comes twice, every row is found by its key.
-/

namespace Rigor

/-- Keys with their values, in the order in which the keys first came. -/
abbrev Table (κ ν : Type) := List (κ × ν)

namespace Table

variable {κ ν : Type}

/-- The keys in order. -/
def keys (t : Table κ ν) : List κ :=
  t.map Prod.fst

/-- The values in the order of their keys. -/
def values (t : Table κ ν) : List ν :=
  t.map Prod.snd

variable [DecidableEq κ]

/-- The value of a key. -/
def get? : Table κ ν → κ → Option ν
  | [], _ => none
  | (k, v) :: rest, key => if k = key then some v else get? rest key

/-- The table has the key. -/
def has (t : Table κ ν) (key : κ) : Bool :=
  (get? t key).isSome

/-- The table with `value` at `key`: at the key's place if it is there, else at the end. -/
def put : Table κ ν → κ → ν → Table κ ν
  | [], key, value => [(key, value)]
  | (k, v) :: rest, key, value =>
    if k = key then (k, value) :: rest else (k, v) :: put rest key value

/-- The table with `value` at `key`, unless the key is there already. -/
def putNew (t : Table κ ν) (key : κ) (value : ν) : Table κ ν :=
  if has t key then t else t ++ [(key, value)]

/-! ### What the operations do to keys and values -/

/-- A key is not found just if it is not among the keys. -/
theorem get?_eq_none_iff {t : Table κ ν} {key : κ} : get? t key = none ↔ key ∉ keys t := by
  induction t with
  | nil => simp [get?, keys]
  | cons row rest ih =>
    by_cases h : row.1 = key
    · simp [get?, keys, h]
    · simpa [get?, keys, h, Ne.symm h] using ih

/-- A table has the keys that are among its keys. -/
theorem has_iff {t : Table κ ν} {key : κ} : has t key = true ↔ key ∈ keys t := by
  rw [has, Option.isSome_iff_ne_none, ne_eq, get?_eq_none_iff, Decidable.not_not]

/-- A value that is found is in a row under its key. -/
theorem mem_of_get? {t : Table κ ν} {key : κ} {value : ν} (h : get? t key = some value) :
    (key, value) ∈ t := by
  induction t with
  | nil => simp [get?] at h
  | cons row rest ih =>
    obtain ⟨k, v⟩ := row
    by_cases hk : k = key
    · subst hk
      simp_all [get?]
    · exact List.mem_cons_of_mem _ (ih (by simpa [get?, hk] using h))

/-- Where no key comes twice, a row is found by its key. -/
theorem get?_of_mem {t : Table κ ν} (h : (keys t).Nodup) {key : κ} {value : ν}
    (hmem : (key, value) ∈ t) : get? t key = some value := by
  induction t with
  | nil => cases hmem
  | cons row rest ih =>
    obtain ⟨k, v⟩ := row
    obtain ⟨hk, hrest⟩ := List.nodup_cons.1 h
    rcases List.mem_cons.1 hmem with heq | hlater
    · obtain ⟨rfl, rfl⟩ := Prod.mk.inj heq
      simp [get?]
    · have hne : k ≠ key := by
        rintro rfl
        exact hk (List.mem_map.2 ⟨(k, value), hlater, rfl⟩)
      simpa [get?, hne] using ih hrest hlater

/-- A key has the value put last, and other keys keep theirs. -/
theorem get?_put {t : Table κ ν} {key other : κ} {value : ν} :
    get? (put t key value) other = if key = other then some value else get? t other := by
  induction t with
  | nil => rfl
  | cons row rest ih =>
    obtain ⟨k, v⟩ := row
    by_cases hk : k = key
    · subst hk
      by_cases ho : k = other <;> simp [put, get?, ho]
    · by_cases ho : k = other
      · subst ho
        simp [put, get?, hk, Ne.symm hk]
      · simp [put, get?, hk, ho, ih]

/-- A key that is there stays where it is, and a new one comes last. -/
theorem keys_put {t : Table κ ν} {key : κ} {value : ν} :
    keys (put t key value) = if key ∈ keys t then keys t else keys t ++ [key] := by
  induction t with
  | nil => rfl
  | cons row rest ih =>
    obtain ⟨k, v⟩ := row
    have step : keys ((k, v) :: rest) = k :: keys rest := rfl
    by_cases hk : k = key
    · subst hk
      simp [put, keys]
    · have kept : keys ((k, v) :: put rest key value) = k :: keys (put rest key value) := rfl
      rw [put, if_neg hk, step, kept, ih]
      by_cases hm : key ∈ keys rest <;> simp [hm, Ne.symm hk]

/-- A row at the end is found just if its key comes nowhere before. -/
theorem get?_append {t : Table κ ν} {key other : κ} {value : ν} :
    get? (t ++ [(key, value)]) other
      = (get? t other).or (if key = other then some value else none) := by
  induction t with
  | nil => rfl
  | cons row rest ih =>
    obtain ⟨k, v⟩ := row
    by_cases hk : k = other
    · simp [get?, hk]
    · simp [get?, hk, ih]

/-- A value put for a new key is found, and one put for an old key is not. -/
theorem get?_putNew {t : Table κ ν} {key other : κ} {value : ν} :
    get? (putNew t key value) other
      = (get? t other).or (if key = other then some value else none) := by
  by_cases h : has t key = true
  · rw [putNew, if_pos h]
    by_cases ho : key = other
    · subst ho
      obtain ⟨v, hv⟩ := Option.isSome_iff_exists.1 h
      simp [hv]
    · simp [ho]
  · rw [putNew, if_neg h, get?_append]

/-- A new key comes last, and an old one stays where it is. -/
theorem keys_putNew {t : Table κ ν} {key : κ} {value : ν} :
    keys (putNew t key value) = if key ∈ keys t then keys t else keys t ++ [key] := by
  by_cases h : key ∈ keys t
  · simp [putNew, has_iff.2 h, h]
  · have : ¬ has t key = true := fun hh => h (has_iff.1 hh)
    rw [putNew, if_neg this, if_neg h]
    simp [keys]

/-- Putting a new key does not make a key come twice. -/
theorem nodup_keys_putNew {t : Table κ ν} (h : (keys t).Nodup) (key : κ) (value : ν) :
    (keys (putNew t key value)).Nodup := by
  rw [keys_putNew]
  split
  · exact h
  · next hkey =>
    refine List.nodup_append.2 ⟨h, by simp, ?_⟩
    rintro a ha b hb rfl
    exact hkey (List.mem_singleton.1 hb ▸ ha)

end Table

end Rigor
