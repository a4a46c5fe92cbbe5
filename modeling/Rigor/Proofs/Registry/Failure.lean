import Rigor.Proofs.Registry.Answers

/-!
# Files that cannot be loaded

Data of the wrong shape have no entries to read. `Misshapen` lists the shapes that are wrong, with
the fault that each of them is (`entries_eq_error_iff`), for JSON values and for the other data that
a file can hold.

A request that has to read the file, because nothing is loaded or to load it again, leaves the
registry that is made and loaded on it (`state_of_readsFile`). So it fails exactly if the file
cannot be loaded (`result_eq_error_iff`), and then the registry is as if just made. Other requests
leave it like this, until one replaces the file: the step is `state_fresh_of_fault`, and the run
`after_fresh_of_fault`.
-/

namespace Rigor

/-! ### Members -/

/-- A member lists no entries exactly if it is there and cannot be run through. -/
theorem entriesOf_eq_error_iff {member : Option Datum} {fault : Fault} :
    entriesOf member = .error fault ↔
      ∃ value, member = some value ∧ value.elements? = none ∧
        fault = .notIterable value.typeName := by
  cases member with
  | none => simp [entriesOf]
  | some value =>
      cases helements : value.elements? with
      | some entries => simp [entriesOf, helements]
      | none => simp [entriesOf, helements, eq_comm]

/-- A member lists the entries that are met in running through it. -/
theorem entriesOf_eq_ok_iff {member : Option Datum} {items : List Json} :
    entriesOf member = .ok items ↔
      (member = none ∧ items = []) ∨ ∃ value, member = some value ∧
        value.elements? = some items := by
  cases member with
  | none => simp [entriesOf, eq_comm]
  | some value => cases helements : value.elements? <;> simp [entriesOf, helements]

namespace DefinitionFile

/-! ### Shapes of data -/

/-- Data that are there but have no members. -/
inductive Memberless : Json → Prop where
  | bool : Memberless (.bool true)
  | int {value : Int} : value ≠ 0 → Memberless (.int value)
  /-- A number that is no zero, of neither sign. -/
  | float {value : Binary64} : (∀ negative, value ≠ .finite negative 0) → Memberless (.float value)
  | str {text : String} : text ≠ "" → Memberless (.str text)
  | arr {items : List Json} : items ≠ [] → Memberless (.arr items)

/-- A value that cannot be run through. -/
inductive Single : Json → Prop where
  | null : Single .null
  | bool (value : Bool) : Single (.bool value)
  | int (value : Int) : Single (.int value)
  | float (value : Binary64) : Single (.float value)

/-- Data in which the member `name` lists no entries, and the fault that this is. -/
inductive Misshapen (name : String) : Json → Fault → Prop where
  /-- There are no members. -/
  | noMembers {content : Json} :
      Memberless content → Misshapen name content (.noMembers content.typeName)
  /-- The member cannot be run through. -/
  | notIterable {members : List (String × Json)} {value : Json} :
      Table.get? members name = some value → Single value →
      Misshapen name (.obj members) (.notIterable value.typeName)

variable {name : String} {content : Json} {fault : Fault}

/-- The data without members are those that are neither blank nor an object. -/
theorem memberless_iff :
    Memberless content ↔ content.isBlank = false ∧ ∀ members, content ≠ .obj members := by
  constructor
  · rintro (_ | hint | hfloat | hstr | harr)
    · simp [Json.isBlank]
    · simpa [Json.isBlank] using hint
    · rename_i value
      cases value with
      | finite negative units =>
          have hunits : units ≠ 0 := fun h => hfloat negative (h ▸ rfl)
          simpa [Json.isBlank] using hunits
      | _ => simp [Json.isBlank]
    · simpa [Json.isBlank] using hstr
    · simpa [Json.isBlank] using harr
  · rintro ⟨hblank, hobj⟩
    cases content with
    | null => simp [Json.isBlank] at hblank
    | bool value =>
        obtain rfl : value = true := by simpa [Json.isBlank] using hblank
        exact .bool
    | int value => exact .int (by simpa [Json.isBlank] using hblank)
    | float value =>
        refine .float ?_
        rintro negative rfl
        simp [Json.isBlank] at hblank
    | str text => exact .str (by simpa [Json.isBlank] using hblank)
    | arr items => exact .arr (by simpa [Json.isBlank] using hblank)
    | obj members => exact absurd rfl (hobj members)

/-- Only null, the booleans and the numbers cannot be run through. -/
theorem single_iff {value : Json} : Single value ↔ value.elements? = none := by
  constructor
  · rintro (_ | _ | _ | _) <;> rfl
  · intro h
    cases value with
    | null => exact .null
    | bool value => exact .bool value
    | int value => exact .int value
    | float value => exact .float value
    | _ => cases h

/-- An object lists what its member does. -/
theorem entries_obj (members : List (String × Json)) :
    entries name (.obj members) = entriesOf ((Table.get? members name).map .json) := by
  cases members <;> rfl

/-- Other data list nothing if they are blank, and else they are a fault. -/
theorem entries_of_ne_obj (h : ∀ members, content ≠ .obj members) :
    entries name content =
      if content.isBlank then .ok [] else .error (.noMembers content.typeName) := by
  unfold entries normalize
  cases hblank : content.isBlank with
  | true => rfl
  | false =>
      cases content with
      | obj members => exact absurd rfl (h members)
      | _ => rfl

/-- Data have no entries exactly if they are of a wrong shape. -/
theorem entries_eq_error_iff :
    entries name content = .error fault ↔ Misshapen name content fault := by
  by_cases hobj : ∃ members, content = .obj members
  · obtain ⟨members, rfl⟩ := hobj
    rw [entries_obj, entriesOf_eq_error_iff]
    constructor
    · rintro ⟨_, hmember, helements, rfl⟩
      obtain ⟨value, hget, rfl⟩ := Option.map_eq_some_iff.mp hmember
      exact .notIterable hget (single_iff.mpr helements)
    · rintro (hmemberless | ⟨hget, hsingle⟩)
      · exact absurd rfl ((memberless_iff.mp hmemberless).2 members)
      · exact ⟨_, Option.map_eq_some_iff.mpr ⟨_, hget, rfl⟩, single_iff.mp hsingle, rfl⟩
  · have hne : ∀ members, content ≠ .obj members := fun members h => hobj ⟨members, h⟩
    rw [entries_of_ne_obj hne]
    constructor
    · intro h
      cases hblank : content.isBlank with
      | true => simp [hblank] at h
      | false =>
          obtain rfl : Fault.noMembers content.typeName = fault := by simpa [hblank] using h
          exact .noMembers (memberless_iff.mpr ⟨hblank, hne⟩)
    · rintro (hmemberless | ⟨hget, -⟩)
      · simp [(memberless_iff.mp hmemberless).1]
      · exact absurd rfl (hne _)

end DefinitionFile

/-! ### Shapes of other data -/

/-- The value is there: it is no empty collection. -/
inductive Special.Present : Special → Prop where
  | date : Present .date
  | dateTime : Present .dateTime
  | bytes {content : List UInt8} : content ≠ [] → Present (.bytes content)
  | set {members : List Json} : members ≠ [] → Present (.set members)

/-- A value that is there is not blank. -/
theorem Special.present_iff {value : Special} : value.Present ↔ value.isBlank = false := by
  constructor
  · rintro (_ | _ | h | h) <;> simp_all [isBlank]
  · intro h
    cases value with
    | date => exact .date
    | dateTime => exact .dateTime
    | bytes content => exact .bytes (by simpa [isBlank] using h)
    | set members => exact .set (by simpa [isBlank] using h)

/-- A value that cannot be run through, be it a JSON value or a date. -/
inductive Datum.Single : Datum → Prop where
  | json {value : Json} : DefinitionFile.Single value → Single (.json value)
  | date : Single (.special .date)
  | dateTime : Single (.special .dateTime)

/-- Only null, the booleans, the numbers and the dates cannot be run through. -/
theorem Datum.single_iff {value : Datum} : value.Single ↔ value.elements? = none := by
  constructor
  · rintro (h | _ | _)
    · exact DefinitionFile.single_iff.mp h
    · rfl
    · rfl
  · intro h
    cases value with
    | json value => exact .json (DefinitionFile.single_iff.mpr h)
    | special value =>
        cases value with
        | date => exact .date
        | dateTime => exact .dateTime
        | _ => cases h

namespace Extended

/-- Data in which the member `name` lists no entries, and the fault that this is. -/
inductive Misshapen (name : String) : Extended → Fault → Prop where
  /-- There are no members. -/
  | noMembers {value : Special} :
      value.Present → Misshapen name (.special value) (.noMembers value.typeName)
  /-- The member cannot be run through. -/
  | notIterable {members : List (String × Datum)} {value : Datum} :
      Table.get? members name = some value → value.Single →
      Misshapen name (.object members) (.notIterable value.typeName)

/-- These data, too, have no entries exactly if they are of a wrong shape. -/
theorem entries_eq_error_iff {name : String} {content : Extended} {fault : Fault} :
    content.entries name = .error fault ↔ Misshapen name content fault := by
  cases content with
  | special value =>
      rw [entries]
      constructor
      · intro h
        cases hblank : value.isBlank with
        | true => simp [hblank] at h
        | false =>
            obtain rfl : Fault.noMembers value.typeName = fault := by simpa [hblank] using h
            exact .noMembers (Special.present_iff.mpr hblank)
      · rintro ⟨hpresent⟩
        simp [Special.present_iff.mp hpresent]
  | object members =>
      rw [entries, entriesOf_eq_error_iff]
      constructor
      · rintro ⟨value, hget, helements, rfl⟩
        exact .notIterable hget (Datum.single_iff.mpr helements)
      · rintro (_ | ⟨hget, hsingle⟩)
        exact ⟨_, hget, Datum.single_iff.mp hsingle, rfl⟩

end Extended

namespace Registry

variable {κ ν ρ : Type} {loader : Loader κ ν} {serve : ρ → Act (Registry κ ν) Json}
  {demand : ρ → Demand} {file : DefinitionFile} {fault : Fault}

/-! ### Requests that read the file -/

/-- The request makes the registry read its file. -/
def ReadsFile (demand : ρ → Demand) (r : Registry κ ν) (q : ρ) : Prop :=
  demand q = .read ∧ r.loaded = false ∨ demand q = .reload

/-- Loading a registry that has just been made fails if the loader does. -/
theorem result_load_fresh (h : (loader file []).fault = some fault) :
    (load loader (fresh file)).result = .error fault := by
  have hload : (loader (fresh file : Registry κ ν).file (fresh file).rows).fault = some fault := h
  rw [load_of_fault rfl hload]

section

variable (hsnapshot : IsSnapshot loader serve demand) {qs : List ρ} {q : ρ}
include hsnapshot

/-- A request that reads the file leaves a registry made and loaded on it. -/
theorem state_of_readsFile (h : ReadsFile demand (reached serve file qs) q) :
    (serve q (reached serve file qs)).state = loadedOn loader (reached serve file qs).file := by
  rcases h with ⟨hq, hunloaded⟩ | hq
  · obtain ⟨ask, hask⟩ := reads_of_met (hsnapshot.met q) hq
    rw [(hask _).2, loadedOn, ← hsnapshot.eq_fresh_of_unloaded file qs hunloaded]
  · rw [(reloads_of_met (hsnapshot.met q) hq _).2, (reload_eq_load_fresh loader _).2, loadedOn]

/-- It fails where the file cannot be loaded, and leaves nothing behind. -/
theorem fails_of_fault (h : ReadsFile demand (reached serve file qs) q)
    (hfault : (loader (reached serve file qs).file []).fault = some fault) :
    (serve q (reached serve file qs)).result = .error fault ∧
      (serve q (reached serve file qs)).state = fresh (reached serve file qs).file := by
  have hload := result_load_fresh hfault
  apply hsnapshot.fault file qs q fault
  rcases h with ⟨hq, hunloaded⟩ | hq
  · rw [← hsnapshot.eq_fresh_of_unloaded file qs hunloaded] at hload
    exact Or.inl ⟨hq, hload⟩
  · rw [← (reload_eq_load_fresh loader _).1] at hload
    exact Or.inr ⟨hq, hload⟩

/-- It succeeds where the file can be loaded, provided that a request has an answer from any
rows. -/
theorem succeeds_of_readable (h : ReadsFile demand (reached serve file qs) q)
    (hanswers : demand q = .read → ∀ rows, ∃ a, Answers loader rows (serve q) a)
    (hreadable : Readable loader (reached serve file qs).file) :
    ∃ a, (serve q (reached serve file qs)).result = .ok a := by
  rcases h with ⟨hq, hunloaded⟩ | hq
  · obtain ⟨a, ha⟩ := hanswers hq (loader (reached serve file qs).file []).rows
    have hloads := loadsTo_fresh hreadable
    rw [← hsnapshot.eq_fresh_of_unloaded file qs hunloaded] at hloads
    exact ⟨a, (ha _ hloads).1⟩
  · have hload := (load_fresh_of_readable hreadable).1
    rw [← (reload_eq_load_fresh loader _).1] at hload
    refine ⟨.null, ?_⟩
    rw [(reloads_of_met (hsnapshot.met q) hq _).1, hload]
    rfl

/-- It fails exactly where the file cannot be loaded. -/
theorem result_eq_error_iff (h : ReadsFile demand (reached serve file qs) q)
    (hanswers : demand q = .read → ∀ rows, ∃ a, Answers loader rows (serve q) a) :
    (serve q (reached serve file qs)).result = .error fault ↔
      (loader (reached serve file qs).file []).fault = some fault := by
  cases hfault : (loader (reached serve file qs).file []).fault with
  | none =>
      obtain ⟨a, ha⟩ := succeeds_of_readable hsnapshot h hanswers hfault
      simp [ha]
  | some found => simp [(fails_of_fault hsnapshot h hfault).1]

/-! ### While the file stays as it is -/

/-- As long as a file that cannot be loaded is not replaced, nothing is left behind. -/
theorem state_fresh_of_fault (hfault : (loader file []).fault = some fault)
    (hq : ∀ other, demand q ≠ .replace other) : (serve q (fresh file)).state = fresh file := by
  cases hdemand : demand q with
  | read =>
      have hreads : ReadsFile demand (reached serve file []) q := Or.inl ⟨hdemand, rfl⟩
      exact (fails_of_fault hsnapshot hreads hfault).2
  | reload =>
      have hreads : ReadsFile demand (reached serve file []) q := Or.inr hdemand
      exact (fails_of_fault hsnapshot hreads hfault).2
  | replace other => exact absurd hdemand (hq other)
  | pass =>
      have hmet := hsnapshot.met q
      rw [hdemand] at hmet
      obtain ⟨answer, hanswer⟩ := hmet
      exact (hanswer _).2

/-- No sequence of requests leaves anything behind while such a file stays in place. -/
theorem after_fresh_of_fault (hfault : (loader file []).fault = some fault)
    (hqs : ∀ q ∈ qs, ∀ other, demand q ≠ .replace other) :
    after serve (fresh file) qs = fresh file := by
  induction qs with
  | nil => rfl
  | cons q rest ih =>
      have hstep := state_fresh_of_fault hsnapshot hfault (hqs q List.mem_cons_self)
      show after serve (serve q (fresh file)).state rest = _
      rw [hstep]
      exact ih fun p hp => hqs p (List.mem_cons_of_mem q hp)

end

end Registry

end Rigor
