import Rigor.Proofs.Registry.Query

/-!
# Registries as snapshots

A registry reads its file late and then keeps to what it has read. A `Timeline` says this without
rows or flags: there is the file as it is now, and the *version* in force, which is the file as it
was at the first load without a fault since the registry was made or since the last reload began.

* `Demand`: what a request asks of a registry, with what it means for an action to meet it.
* `after_fresh`: after any requests a registry is the one that its timeline gives. The step is
  `state_of_met`, with a case for each demand; the run is an induction on the requests.
* `IsSnapshot`: what follows for answers, replacements of the file, reloads and faults, proved of
  every registry whose requests meet their demands (`isSnapshot`).

A loader is `Clean` if a fault leaves the rows as they were. Without that, rows of one version of
the file could be left behind for the next.
-/

namespace Rigor.Registry

variable {κ ν ρ : Type} {loader : Loader κ ν}

/-! ### Demands -/

/-- What a request demands of a registry. -/
inductive Demand where
  /-- Load the registry and answer from its rows. -/
  | read
  /-- Read the file again. -/
  | reload
  /-- Replace the file. -/
  | replace (file : DefinitionFile)
  /-- Answer without the rows. -/
  | pass

/-- The action does what is demanded. -/
def Demand.Met (loader : Loader κ ν) (act : Act (Registry κ ν) Json) : Demand → Prop
  | .read => Reads loader act
  | .reload => ∀ r, (act r).result = (Registry.reload loader r).result.map (fun _ => .null) ∧
      (act r).state = (Registry.reload loader r).state
  | .replace file => ∀ r, (act r).result = .ok .null ∧ (act r).state = { r with file := file }
  | .pass => Ignores act

/-- An action that meets the demand to read does read. -/
theorem reads_of_met {act : Act (Registry κ ν) Json} {d : Demand} (h : d.Met loader act)
    (hd : d = .read) : Reads loader act := by
  subst hd
  exact h

/-- An action that meets the demand to reload does reload. -/
theorem reloads_of_met {act : Act (Registry κ ν) Json} {d : Demand} (h : d.Met loader act)
    (hd : d = .reload) (r : Registry κ ν) :
    (act r).result = (Registry.reload loader r).result.map (fun _ => .null) ∧
      (act r).state = (Registry.reload loader r).state := by
  subst hd
  exact h r

/-! ### Timelines -/

/-- The file can be loaded without a fault. -/
def Readable (loader : Loader κ ν) (file : DefinitionFile) : Prop :=
  (loader file []).fault = none

instance (file : DefinitionFile) : Decidable (Readable loader file) :=
  inferInstanceAs (Decidable (_ = none))

/-- The file there is, and the version of it that answers are given from. -/
structure Timeline (loader : Loader κ ν) where
  /-- The definition file as it is now. -/
  file : DefinitionFile
  /-- The file as it was when it was loaded, if it has been. -/
  version : Option DefinitionFile
  /-- A version that is in force could be loaded. -/
  readable : ∀ v, version = some v → Readable loader v

/-- A registry that has been made and loaded on a file. -/
def loadedOn (loader : Loader κ ν) (file : DefinitionFile) : Registry κ ν :=
  (load loader (fresh file)).state

namespace Timeline

/-- Nothing has been read yet. -/
def start (loader : Loader κ ν) (file : DefinitionFile) : Timeline loader :=
  ⟨file, none, by simp⟩

/-- The version in force stays; if there is none, the present file comes into force unless loading
it fails. -/
def read (t : Timeline loader) : Timeline loader where
  file := t.file
  version := t.version.or (if Readable loader t.file then some t.file else none)
  readable v hv := by
    cases hversion : t.version with
    | some _ =>
        rw [hversion] at hv
        exact t.readable v (hversion.trans hv)
    | none =>
        rw [hversion, Option.none_or, Option.ite_none_right_eq_some, Option.some.injEq] at hv
        exact hv.2 ▸ hv.1

/-- The timeline after a demand. -/
def step (t : Timeline loader) : Demand → Timeline loader
  | .read => t.read
  | .reload => (start loader t.file).read
  | .replace file => ⟨file, t.version, t.readable⟩
  | .pass => t

/-- The registry at a point of its timeline. -/
def registry (t : Timeline loader) : Registry κ ν :=
  match t.version with
  | none => fresh t.file
  | some v => { loadedOn loader v with file := t.file }

end Timeline

/-- The timeline of a registry that is made for a file and meets the demands of requests. -/
def timeline (loader : Loader κ ν) (demand : ρ → Demand) (file : DefinitionFile)
    (requests : List ρ) : Timeline loader :=
  requests.foldl (fun t q => t.step (demand q)) (.start loader file)

/-- The registry after requests. A request that fails does not keep the next ones from being
served. -/
def after (serve : ρ → Act (Registry κ ν) Json) (r : Registry κ ν) (requests : List ρ) :
    Registry κ ν :=
  requests.foldl (fun r q => (serve q r).state) r

/-! ### Loading at a point of a timeline -/

/-- A fault leaves the rows as they were. -/
def Clean (loader : Loader κ ν) : Prop :=
  ∀ file rows, (loader file rows).fault ≠ none → (loader file rows).rows = rows

/-- A registry just made for a readable file is loaded with the rows of this file. -/
theorem load_fresh_of_readable {file : DefinitionFile} (h : Readable loader file) :
    (load loader (fresh file)).result = .ok () ∧
      (load loader (fresh file)).state = ⟨file, (loader file []).rows, true⟩ := by
  have hfault : (loader (fresh file : Registry κ ν).file (fresh file).rows).fault = none := h
  rw [load_of_no_fault rfl hfault]
  exact ⟨rfl, rfl⟩

/-- One made for another file is not loaded, and stays as it was made. -/
theorem load_fresh_of_not_readable (hclean : Clean loader) {file : DefinitionFile}
    (h : ¬ Readable loader file) :
    (∃ fault, (load loader (fresh file)).result = .error fault) ∧
      (load loader (fresh file)).state = fresh file := by
  have hrows : (loader file []).rows = [] := hclean file [] h
  obtain ⟨fault, hfault⟩ := Option.ne_none_iff_exists'.mp h
  have hload : (loader (fresh file : Registry κ ν).file (fresh file).rows).fault = some fault :=
    hfault
  rw [load_of_fault rfl hload]
  refine ⟨⟨fault, rfl⟩, ?_⟩
  show (⟨file, (loader file []).rows, false⟩ : Registry κ ν) = fresh file
  rw [hrows, fresh]

/-- Reloading is loading a registry just made for the present file. -/
theorem reload_eq_load_fresh (loader : Loader κ ν) (r : Registry κ ν) :
    (reload loader r).result = (load loader (fresh r.file)).result ∧
      (reload loader r).state = (load loader (fresh r.file)).state := by
  have hclear : (clear r : Outcome (Registry κ ν) Unit).result = .ok () := rfl
  rw [reload, Act.bind_of_ok hclear]
  exact ⟨rfl, rfl⟩

namespace Timeline

variable {t : Timeline loader}

/-- Without a version in force, the registry is as if just made. -/
theorem registry_of_none (h : t.version = none) : t.registry = fresh t.file := by
  rw [registry, h]

/-- With a version in force, the registry holds the rows of that version. -/
theorem registry_of_some {v : DefinitionFile} (h : t.version = some v) :
    t.registry = ⟨t.file, (loader v []).rows, true⟩ := by
  rw [registry, h]
  simp only [loadedOn, (load_fresh_of_readable (t.readable v h)).2]

/-- The registry of a timeline reads the present file. -/
theorem file_registry : t.registry.file = t.file := by
  cases h : t.version with
  | none => rw [registry_of_none h, fresh]
  | some v => rw [registry_of_some h]

/-- It is loaded just if there is a version in force. -/
theorem loaded_registry : t.registry.loaded = t.version.isSome := by
  cases h : t.version with
  | none => rw [registry_of_none h, fresh, Option.isSome_none]
  | some v => rw [registry_of_some h, Option.isSome_some]

/-- Reading keeps the version in force, and brings the present file into force if there is none and
it can be read. -/
theorem version_read : t.read.version =
    t.version.or (if Readable loader t.file then some t.file else none) := rfl

/-- Where a version is in force after reading, loading succeeds and gives the rows of it. -/
theorem load_registry_of_some {v : DefinitionFile} (h : t.read.version = some v) :
    (load loader t.registry).result = .ok () ∧
      (load loader t.registry).state = ⟨t.file, (loader v []).rows, true⟩ := by
  rw [version_read] at h
  cases hversion : t.version with
  | some w =>
      rw [hversion, Option.some_or, Option.some.injEq] at h
      subst h
      have hloaded : t.registry.loaded = true := by rw [loaded_registry, hversion]; rfl
      rw [load_of_loaded hloaded]
      exact ⟨rfl, registry_of_some hversion⟩
  | none =>
      rw [hversion, Option.none_or, Option.ite_none_right_eq_some, Option.some.injEq] at h
      obtain ⟨hreadable, rfl⟩ := h
      rw [registry_of_none hversion]
      exact load_fresh_of_readable hreadable

/-- Where there is none after reading, nothing had been read and loading fails. -/
theorem load_registry_of_none (hclean : Clean loader) (h : t.read.version = none) :
    (∃ fault, (load loader t.registry).result = .error fault) ∧
      (load loader t.registry).state = fresh t.file := by
  rw [version_read, Option.or_eq_none_iff] at h
  obtain ⟨hversion, hfile⟩ := h
  have hreadable : ¬ Readable loader t.file := by
    intro hreadable
    rw [if_pos hreadable] at hfile
    cases hfile
  rw [registry_of_none hversion]
  exact load_fresh_of_not_readable hclean hreadable

/-- To load the registry is to read on its timeline. -/
theorem load_registry (hclean : Clean loader) (t : Timeline loader) :
    (load loader t.registry).state = t.read.registry := by
  cases h : t.read.version with
  | none => rw [(load_registry_of_none hclean h).2, registry_of_none h]; rfl
  | some v => rw [(load_registry_of_some h).2, registry_of_some h]; rfl

end Timeline

/-! ### A step and a run -/

/-- An action that meets a demand goes along with the timeline. -/
theorem state_of_met (hclean : Clean loader) (t : Timeline loader)
    {act : Act (Registry κ ν) Json} {demand : Demand} (h : demand.Met loader act) :
    (act t.registry).state = (t.step demand).registry := by
  cases demand with
  | read =>
      obtain ⟨ask, hask⟩ := h
      rw [(hask _).2]
      exact Timeline.load_registry hclean t
  | reload =>
      rw [(h _).2, (reload_eq_load_fresh loader _).2, Timeline.file_registry]
      exact Timeline.load_registry hclean (.start loader t.file)
  | replace file =>
      rw [(h _).2, Timeline.registry, Timeline.registry]
      cases hversion : t.version with
      | none => simp only [Timeline.step, hversion, fresh]
      | some v => simp only [Timeline.step, hversion]
  | pass =>
      obtain ⟨answer, hanswer⟩ := h
      exact (hanswer _).2

variable {serve : ρ → Act (Registry κ ν) Json} {demand : ρ → Demand}

/-- Requests can be served in two parts. -/
theorem after_append (r : Registry κ ν) (requests more : List ρ) :
    after serve r (requests ++ more) = after serve (after serve r requests) more :=
  List.foldl_append

/-- From any point of a timeline, serving requests follows their demands along the timeline. -/
theorem after_registry (hclean : Clean loader) (hmet : ∀ q, (demand q).Met loader (serve q))
    (t : Timeline loader) (requests : List ρ) :
    after serve t.registry requests =
      (requests.foldl (fun t q => t.step (demand q)) t).registry := by
  induction requests generalizing t with
  | nil => rfl
  | cons q rest ih =>
      have hstep := state_of_met hclean t (hmet q)
      show after serve (serve q t.registry).state rest = _
      rw [hstep, ih]
      rfl

/-- **A registry is determined by its timeline.** -/
theorem after_fresh (hclean : Clean loader) (hmet : ∀ q, (demand q).Met loader (serve q))
    (file : DefinitionFile) (requests : List ρ) :
    after serve (fresh file) requests = (timeline loader demand file requests).registry :=
  after_registry hclean hmet (.start loader file) requests

/-- The version in force stays until a reload. -/
theorem version_step {t : Timeline loader} {v : DefinitionFile} (h : t.version = some v)
    {d : Demand} (hd : d ≠ .reload) : (t.step d).version = some v := by
  cases d with
  | read =>
      show t.read.version = some v
      rw [Timeline.version_read, h, Option.some_or]
  | reload => exact absurd rfl hd
  | replace file => exact h
  | pass => exact h

/-- Without a reload, requests leave the version in force as it is. -/
theorem version_foldl_step {t : Timeline loader} {v : DefinitionFile} (h : t.version = some v)
    {requests : List ρ} (hreload : ∀ q ∈ requests, demand q ≠ .reload) :
    (requests.foldl (fun t q => t.step (demand q)) t).version = some v := by
  induction requests generalizing t with
  | nil => exact h
  | cons q rest ih =>
      refine ih (version_step h (hreload q List.mem_cons_self)) ?_
      exact fun p hp => hreload p (List.mem_cons_of_mem q hp)

/-! ### Answers -/

/-- The answer of an action that reads is that of a registry loaded on the version in force. -/
theorem result_eq_of_version {act : Act (Registry κ ν) Json} (h : Reads loader act)
    {t : Timeline loader} {v : DefinitionFile} (hv : t.read.version = some v) :
    (act t.registry).result = (act (loadedOn loader v)).result := by
  obtain ⟨ask, hask⟩ := h
  have hloadedOn : loadedOn loader v = ⟨v, (loader v []).rows, true⟩ :=
    (load_fresh_of_readable (t.read.readable v hv)).2
  obtain ⟨hresult, hstate⟩ := Timeline.load_registry_of_some hv
  rw [(hask _).1, (hask _).1, hresult, hstate, hloadedOn, load_of_loaded rfl]

/-- An action that reads fails where loading fails, and leaves nothing behind. -/
theorem result_eq_of_load_error {act : Act (Registry κ ν) Json} (h : Reads loader act)
    (hclean : Clean loader) {t : Timeline loader} {fault : Fault}
    (hfault : (load loader t.registry).result = .error fault) :
    (act t.registry).result = .error fault ∧ (act t.registry).state = fresh t.file := by
  obtain ⟨ask, hask⟩ := h
  refine ⟨by rw [(hask _).1, hfault]; rfl, ?_⟩
  rw [(hask _).2]
  cases hversion : t.read.version with
  | none => exact (Timeline.load_registry_of_none hclean hversion).2
  | some v =>
      rw [(Timeline.load_registry_of_some hversion).1] at hfault
      cases hfault

/-- A reload that fails leaves nothing behind either. -/
theorem result_eq_of_reload_error {act : Act (Registry κ ν) Json} {r : Registry κ ν}
    (h : (act r).result = (reload loader r).result.map (fun _ => .null) ∧
      (act r).state = (reload loader r).state) (hclean : Clean loader) {fault : Fault}
    (hfault : (reload loader r).result = .error fault) :
    (act r).result = .error fault ∧ (act r).state = fresh r.file := by
  obtain ⟨hresult, hstate⟩ := h
  rw [hfault] at hresult
  obtain ⟨hload, hreload⟩ := reload_eq_load_fresh loader r
  have hreadable : ¬ Readable loader r.file := by
    intro hreadable
    rw [hload, (load_fresh_of_readable hreadable).1] at hfault
    cases hfault
  rw [hstate, hreload]
  exact ⟨hresult, (load_fresh_of_not_readable hclean hreadable).2⟩

/-! ### Snapshots -/

/-- The registry that is made for a file, after requests. -/
def reached (serve : ρ → Act (Registry κ ν) Json) (file : DefinitionFile) (requests : List ρ) :
    Registry κ ν :=
  after serve (fresh file) requests

/-- Whatever requests it serves, and however its file is replaced meanwhile, the registry shows one
version of the file at a time. -/
structure IsSnapshot (loader : Loader κ ν) (serve : ρ → Act (Registry κ ν) Json)
    (demand : ρ → Demand) : Prop where
  /-- Every request does what it demands. -/
  met : ∀ q, (demand q).Met loader (serve q)
  /-- A registry that is not loaded holds no rows: it is as if just made for the present file. -/
  eq_fresh_of_unloaded : ∀ file qs, (reached serve file qs).loaded = false →
    reached serve file qs = fresh (reached serve file qs).file
  /-- A loaded registry holds the rows of the version in force, and no others. -/
  rows_of_loaded : ∀ file qs, (reached serve file qs).loaded = true →
    ∃ v, (timeline loader demand file qs).version = some v ∧
      (reached serve file qs).rows = (loader v []).rows
  /-- An answer is that of a registry made and loaded on the version in force. -/
  answer_of_version : ∀ file qs q a, demand q = .read →
    (serve q (reached serve file qs)).result = .ok a →
    ∃ v, (timeline loader demand file (qs ++ [q])).version = some v ∧
      (serve q (loadedOn loader v)).result = .ok a
  /-- Once the registry is loaded, nothing but a reload changes an answer. -/
  answer_until_reload : ∀ file qs more q, (reached serve file qs).loaded = true →
    (∀ p ∈ more, demand p ≠ .reload) → demand q = .read →
    (serve q (reached serve file (qs ++ more))).result = (serve q (reached serve file qs)).result
  /-- From a reload on the registry is one that has just been made and loaded. -/
  after_reload : ∀ file qs q more, demand q = .reload →
    reached serve file (qs ++ q :: more) =
      after serve (loadedOn loader (reached serve file qs).file) more
  /-- A load that fails makes the request fail, and leaves a registry just made for the present
  file. -/
  fault : ∀ file qs q fault,
    demand q = .read ∧ (load loader (reached serve file qs)).result = .error fault ∨
      demand q = .reload ∧ (reload loader (reached serve file qs)).result = .error fault →
    (serve q (reached serve file qs)).result = .error fault ∧
      (serve q (reached serve file qs)).state = fresh (reached serve file qs).file

/-- A timeline can be followed in two parts. -/
theorem timeline_append (file : DefinitionFile) (requests more : List ρ) :
    timeline loader demand file (requests ++ more) =
      more.foldl (fun t q => t.step (demand q)) (timeline loader demand file requests) :=
  List.foldl_append

/-- A registry with a clean loader whose requests do what they demand is a snapshot. -/
theorem isSnapshot (hclean : Clean loader) (hmet : ∀ q, (demand q).Met loader (serve q)) :
    IsSnapshot loader serve demand where
  met := hmet
  eq_fresh_of_unloaded file qs h := by
    rw [reached, after_fresh hclean hmet] at h ⊢
    rw [Timeline.loaded_registry, Option.isSome_eq_false_iff, Option.isNone_iff_eq_none] at h
    rw [Timeline.registry_of_none h]
    rfl
  rows_of_loaded file qs h := by
    rw [reached, after_fresh hclean hmet] at h ⊢
    rw [Timeline.loaded_registry, Option.isSome_iff_exists] at h
    obtain ⟨v, hv⟩ := h
    exact ⟨v, hv, by rw [Timeline.registry_of_some hv]⟩
  answer_of_version file qs q a hq h := by
    have hread : Reads loader (serve q) := reads_of_met (hmet q) hq
    have hstep : timeline loader demand file (qs ++ [q]) =
        (timeline loader demand file qs).read := by
      rw [timeline_append]
      show (timeline loader demand file qs).step (demand q) = _
      rw [hq]
      rfl
    rw [reached, after_fresh hclean hmet] at h
    rw [hstep]
    cases hversion : (timeline loader demand file qs).read.version with
    | some v => exact ⟨v, rfl, by rw [← result_eq_of_version hread hversion, h]⟩
    | none =>
        obtain ⟨⟨fault, hfault⟩, -⟩ := Timeline.load_registry_of_none hclean hversion
        rw [(result_eq_of_load_error hread hclean hfault).1] at h
        cases h
  answer_until_reload file qs more q h hmore hq := by
    have hread : Reads loader (serve q) := reads_of_met (hmet q) hq
    rw [reached, after_fresh hclean hmet, Timeline.loaded_registry, Option.isSome_iff_exists] at h
    obtain ⟨v, hv⟩ := h
    have hlater : (timeline loader demand file (qs ++ more)).version = some v := by
      rw [timeline_append]
      exact version_foldl_step hv hmore
    have hreadNow := version_step hv (d := .read) (by simp)
    have hreadLater := version_step hlater (d := .read) (by simp)
    rw [reached, reached, after_fresh hclean hmet, after_fresh hclean hmet,
      result_eq_of_version hread hreadNow, result_eq_of_version hread hreadLater]
  after_reload file qs q more hq := by
    have hreload : (serve q (reached serve file qs)).state =
        loadedOn loader (reached serve file qs).file := by
      rw [(reloads_of_met (hmet q) hq _).2, (reload_eq_load_fresh loader _).2, loadedOn]
    rw [reached, after_append]
    show after serve (serve q (reached serve file qs)).state more = _
    rw [hreload]
  fault file qs q fault h := by
    rcases h with ⟨hq, hload⟩ | ⟨hq, hreload⟩
    · rw [reached, after_fresh hclean hmet] at hload ⊢
      rw [Timeline.file_registry]
      exact result_eq_of_load_error (reads_of_met (hmet q) hq) hclean hload
    · exact result_eq_of_reload_error (reloads_of_met (hmet q) hq _) hclean hreload

end Rigor.Registry
