import Folio.Database.Pool
import Mathlib.Order.Bounds.Basic

/-!
# How a pool is sized

A step sets a size or a wait, and a sequence of steps counts for its sizes and its waits alone
(`applyAll_eq`): how the two kinds alternate makes no difference. Every size cuts down the idle
connections and no later one brings them back, so a pool keeps as many of them as the smallest size
allows and never more than it may have at all (`pool_sizing`).
-/

namespace Folio.Database.PoolSettings

/-! ### What steps set -/

/-- The size that a step sets. -/
def Step.size? : Step → Option Nat
  | .maxSize size => some size
  | .wait _ => none

/-- The wait that a step sets. -/
def Step.wait? : Step → Option Time.Duration
  | .maxSize _ => none
  | .wait duration => some duration

/-- The sizes that steps set, the first one first. -/
def sizes (steps : List Step) : List Nat :=
  steps.filterMap Step.size?

/-- The waits that steps set, the first one first. -/
def waits (steps : List Step) : List Time.Duration :=
  steps.filterMap Step.wait?

variable {settings : PoolSettings} {steps others : List Step}

@[simp] theorem sizes_maxSize (size : Nat) : sizes (.maxSize size :: steps) = size :: sizes steps :=
  rfl

@[simp] theorem sizes_wait (duration : Time.Duration) :
    sizes (.wait duration :: steps) = sizes steps := rfl

@[simp] theorem waits_maxSize (size : Nat) : waits (.maxSize size :: steps) = waits steps := rfl

@[simp] theorem waits_wait (duration : Time.Duration) :
    waits (.wait duration :: steps) = duration :: waits steps := rfl

@[simp] theorem sizes_append : sizes (steps ++ others) = sizes steps ++ sizes others :=
  List.filterMap_append

@[simp] theorem waits_append : waits (steps ++ others) = waits steps ++ waits others :=
  List.filterMap_append

@[simp] theorem sizes_map_maxSize (ns : List Nat) : sizes (ns.map .maxSize) = ns := by
  simp [sizes, Function.comp_def, Step.size?]

@[simp] theorem sizes_map_wait (ds : List Time.Duration) : sizes (ds.map .wait) = [] := by
  simp [sizes, Function.comp_def, Step.size?]

@[simp] theorem waits_map_maxSize (ns : List Nat) : waits (ns.map .maxSize) = [] := by
  simp [waits, Function.comp_def, Step.wait?]

@[simp] theorem waits_map_wait (ds : List Time.Duration) : waits (ds.map .wait) = ds := by
  simp [waits, Function.comp_def, Step.wait?]

/-! ### What steps lead to -/

/-- The last size and the last wait count, and of the sizes every one cuts down the idle
connections. -/
theorem applyAll_eq (settings : PoolSettings) (steps : List Step) :
    settings.applyAll steps =
      { url := settings.url
        maxSize := (sizes steps).getLastD settings.maxSize
        minIdle := settings.minIdle.map fun idle => (sizes steps).foldl min idle
        timeout := (waits steps).getLastD settings.timeout } := by
  induction steps generalizing settings with
  | nil => simp [sizes, waits]
  | cons step rest ih =>
    rw [applyAll_cons, ih]
    cases step with
    | maxSize size => simp [apply, withMaxSize, Function.comp_def, List.getLast?_cons]
    | wait duration => simp [apply, withTimeout, List.getLast?_cons]

/-- How sizes and waits alternate makes no difference. -/
theorem applyAll_congr (sameSizes : sizes steps = sizes others)
    (sameWaits : waits steps = waits others) (settings : PoolSettings) :
    settings.applyAll steps = settings.applyAll others := by
  rw [applyAll_eq, applyAll_eq, sameSizes, sameWaits]

/-! ### Idle connections fit into the pool -/

/-- No more connections are kept idle than there may be. -/
def Fits (settings : PoolSettings) : Prop :=
  ∀ idle ∈ settings.minIdle, idle ≤ settings.maxSize

theorem fits_new (url : String) : (new url).Fits := by
  rintro idle ⟨⟩
  exact (by decide : 2 ≤ 10)

/-- A size makes the idle connections fit, whatever was set before. -/
theorem fits_withMaxSize (settings : PoolSettings) (size : Nat) :
    (settings.withMaxSize size).Fits := by
  intro idle kept
  obtain ⟨before, _, rfl⟩ := Option.map_eq_some_iff.mp kept
  exact Nat.min_le_right before size

theorem Fits.apply (fits : settings.Fits) (step : Step) : (settings.apply step).Fits := by
  cases step with
  | maxSize size => exact fits_withMaxSize settings size
  | wait duration => exact fits

theorem Fits.applyAll (fits : settings.Fits) (steps : List Step) :
    (settings.applyAll steps).Fits := by
  induction steps generalizing settings with
  | nil => exact fits
  | cons step rest ih => exact ih (fits.apply step)

/-! ### The settings after any steps -/

/-- After any steps from the first settings the address is the same, the last size and the last wait
are in force, and the number of idle connections is the smallest of two and all sizes, which is at
most the size in force. A size and a wait in a row may change places, and so all sizes may be set
before all waits or after them. -/
theorem pool_sizing (url : String) (steps : List Step) :
    ((new url).applyAll steps).url = url ∧
      ((new url).applyAll steps).maxSize = (sizes steps).getLastD 10 ∧
      ((new url).applyAll steps).timeout = (waits steps).getLastD (.ofSeconds 30) ∧
      (∃ idle, ((new url).applyAll steps).minIdle = some idle ∧
        IsLeast {n | n ∈ 2 :: sizes steps} idle ∧ idle ≤ ((new url).applyAll steps).maxSize) ∧
      (∀ size duration rest,
        (new url).applyAll (steps ++ .maxSize size :: .wait duration :: rest) =
          (new url).applyAll (steps ++ .wait duration :: .maxSize size :: rest)) ∧
      (new url).applyAll steps =
        (new url).applyAll ((sizes steps).map .maxSize ++ (waits steps).map .wait) ∧
      (new url).applyAll steps =
        (new url).applyAll ((waits steps).map .wait ++ (sizes steps).map .maxSize) := by
  have kept : ((new url).applyAll steps).minIdle = some ((sizes steps).foldl min 2) := by
    rw [applyAll_eq]
    rfl
  have least : IsLeast {n | n ∈ 2 :: sizes steps} ((sizes steps).foldl min 2) :=
    List.min?_eq_some_iff.mp List.min?_cons'
  refine ⟨?_, ?_, ?_, ⟨_, kept, least, (fits_new url).applyAll steps _ kept⟩, ?_, ?_, ?_⟩
  · rw [applyAll_eq]
    rfl
  · rw [applyAll_eq]
    rfl
  · rw [applyAll_eq]
    rfl
  · exact fun size duration rest => applyAll_congr (by simp) (by simp) _
  · exact applyAll_congr (by simp) (by simp) _
  · exact applyAll_congr (by simp) (by simp) _

-- Later room does not bring idle connections back.
example : ((new "db").applyAll [.maxSize 1, .maxSize 50]).minIdle = some 1 := rfl

end Folio.Database.PoolSettings
