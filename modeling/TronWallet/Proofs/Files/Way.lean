import TronWallet.Footprint
import TronWallet.Proofs.Files.Walk

/-!
# The way of a path

`arrive` is where steps lead if nothing stops them; it is the last of the places that they
pass (`passing_append_singleton`). Steps lead there if every place before it is a directory
and no name is too long (`walk_append_singleton_eq_ok_iff`). If the places are directories
or nothing is there, then steps that lead nowhere fail because something is not found
(`walk_eq_error_of_open`), so that directories can be made.
-/

namespace TronWallet.Files

/-- Where steps lead from a place. -/
def arrive : Location → List String → Location
  | place, [] => place
  | place, step :: steps => arrive (if step = ".." then place.dropLast else place ++ [step]) steps

@[simp] theorem arrive_nil (place : Location) : arrive place [] = place := rfl

theorem arrive_cons (place : Location) (step : String) (steps : List String) :
    arrive place (step :: steps) = arrive (arrive place [step]) steps := rfl

theorem arrive_append (place : Location) (xs ys : List String) :
    arrive place (xs ++ ys) = arrive (arrive place xs) ys := by
  induction xs generalizing place with
  | nil => rfl
  | cons step steps ih => rw [List.cons_append, arrive_cons, ih, ← arrive_cons]

/-- Names lead down. -/
theorem arrive_of_ne_up {place : Location} {steps : List String} (h : ∀ step ∈ steps, step ≠ "..") :
    arrive place steps = place ++ steps := by
  induction steps generalizing place with
  | nil => rw [arrive_nil, List.append_nil]
  | cons step steps ih =>
      obtain ⟨hstep, hsteps⟩ := List.forall_mem_cons.1 h
      rw [arrive, if_neg hstep, ih hsteps, List.append_assoc, List.singleton_append]

@[simp] theorem passing_nil (place : Location) : passing place [] = [] := rfl

theorem passing_cons (place : Location) (step : String) (steps : List String) :
    passing place (step :: steps) =
      arrive place [step] :: passing (arrive place [step]) steps := rfl

theorem passing_append (place : Location) (xs ys : List String) :
    passing place (xs ++ ys) = passing place xs ++ passing (arrive place xs) ys := by
  induction xs generalizing place with
  | nil => rfl
  | cons step steps ih =>
      rw [List.cons_append, passing_cons, passing_cons, ih, List.cons_append, ← arrive_cons]

/-- The last place that steps pass is the one where they lead. -/
theorem passing_append_singleton (place : Location) (steps : List String) (step : String) :
    passing place (steps ++ [step]) =
      passing place steps ++ [arrive place (steps ++ [step])] := by
  rw [passing_append, passing_cons, passing_nil, ← arrive_append]

namespace Disk

variable {d : Disk} {origin place : Location} {steps : List String}

/-- No name among the steps is too long. -/
def Fits (steps : List String) : Prop :=
  ∀ step ∈ steps, step ≠ ".." → Text.byteLength step.toList ≤ nameLimit

/-- A step from a directory leads on. -/
theorem walk_cons_of_isDirectory {step : String} (hdirectory : d.isDirectory origin = true)
    (hfits : step ≠ ".." → Text.byteLength step.toList ≤ nameLimit) :
    d.walk origin (step :: steps) = d.walk (arrive origin [step]) steps := by
  rw [walk, hdirectory, arrive]
  by_cases hup : step = ".."
  · simp [hup]
  · simp [hup, Nat.not_lt.2 (hfits hup)]

theorem walk_append_of_directories {rest : List String} (hfits : Fits steps)
    (horigin : d.isDirectory origin = true)
    (h : ∀ place ∈ passing origin steps, d.isDirectory place = true) :
    d.walk origin (steps ++ rest) = d.walk (arrive origin steps) rest := by
  induction steps generalizing origin with
  | nil => rfl
  | cons step steps ih =>
      rw [passing_cons, List.forall_mem_cons] at h
      obtain ⟨hstep, hsteps⟩ := List.forall_mem_cons.1 hfits
      rw [List.cons_append, walk_cons_of_isDirectory horigin hstep, ih hsteps h.1 h.2,
        ← arrive_cons]

/-- The place before a step is the last of the directories that it needs. -/
theorem isDirectory_arrive (horigin : d.isDirectory origin = true)
    (h : ∀ place ∈ passing origin steps, d.isDirectory place = true) :
    d.isDirectory (arrive origin steps) = true := by
  induction steps generalizing origin with
  | nil => exact horigin
  | cons step steps ih =>
      rw [passing_cons, List.forall_mem_cons] at h
      rw [arrive_cons]
      exact ih h.1 h.2

/-- Steps lead to a place through directories, and only through directories. -/
theorem walk_append_singleton_eq_ok_iff {step : String} :
    d.walk origin (steps ++ [step]) = .ok place ↔
      d.isDirectory origin = true ∧ (∀ place ∈ passing origin steps, d.isDirectory place = true) ∧
        Fits (steps ++ [step]) ∧ place = arrive origin (steps ++ [step]) := by
  constructor
  · intro h
    induction steps generalizing origin with
    | nil =>
        rw [List.nil_append, walk_cons_eq_ok_iff] at h
        obtain ⟨hdirectory, ⟨rfl, hplace⟩ | ⟨hname, hlength, hplace⟩⟩ := h
        · cases hplace
          exact ⟨hdirectory, by simp, by simp [Fits], rfl⟩
        · cases hplace
          refine ⟨hdirectory, by simp, ?_, by simp [arrive, hname]⟩
          simpa [Fits, hname] using hlength
    | cons first steps ih =>
        rw [List.cons_append, walk_cons_eq_ok_iff] at h
        obtain ⟨hdirectory, hrest⟩ := h
        have hfirst : first ≠ ".." → Text.byteLength first.toList ≤ nameLimit := by
          rcases hrest with ⟨hup, -⟩ | ⟨-, hlength, -⟩
          · exact fun hname => absurd hup hname
          · exact fun _ => hlength
        have hwalk : d.walk (arrive origin [first]) (steps ++ [step]) = .ok place := by
          rcases hrest with ⟨hup, hwalk⟩ | ⟨hname, -, hwalk⟩
          · simpa [arrive, hup] using hwalk
          · simpa [arrive, hname] using hwalk
        obtain ⟨hreached, hpassing, hfits, hplace⟩ := ih hwalk
        refine ⟨hdirectory, ?_, List.forall_mem_cons.2 ⟨hfirst, hfits⟩, hplace⟩
        rw [passing_cons, List.forall_mem_cons]
        exact ⟨hreached, hpassing⟩
  · rintro ⟨horigin, hpassing, hfits, rfl⟩
    obtain ⟨hsteps, hstep⟩ := List.forall_mem_append.1 hfits
    rw [walk_append_of_directories hsteps horigin hpassing,
      walk_cons_of_isDirectory (isDirectory_arrive horigin hpassing)
        (hstep step (List.mem_singleton_self step)), ← arrive_append]
    rfl

/-- Is the place a directory, or nothing there yet? -/
def IsOpen (d : Disk) (place : Location) : Prop :=
  d.isDirectory place = true ∨ d.occupied place = false

/-- Steps that pass open places only lead on, or something is not found. -/
theorem walk_eq_error_of_open {rest : List String} (hfits : Fits steps)
    (horigin : d.isDirectory origin = true) (h : ∀ place ∈ passing origin steps, d.IsOpen place)
    (hmissing : ¬ ∀ place ∈ passing origin steps, d.isDirectory place = true) (hrest : rest ≠ []) :
    d.walk origin (steps ++ rest) = .error .notFound := by
  induction steps generalizing origin with
  | nil => exact absurd (by simp) hmissing
  | cons step steps ih =>
      rw [passing_cons, List.forall_mem_cons] at h hmissing
      obtain ⟨hstep, hsteps⟩ := List.forall_mem_cons.1 hfits
      rw [List.cons_append, walk_cons_of_isDirectory horigin hstep]
      by_cases hreached : d.isDirectory (arrive origin [step]) = true
      · exact ih hsteps hreached h.2 fun hall => hmissing ⟨hreached, hall⟩
      · have hoccupied := h.1.resolve_left hreached
        obtain ⟨next, more, hnext⟩ := List.exists_cons_of_ne_nil
          (List.append_ne_nil_of_right_ne_nil steps hrest)
        rw [hnext, walk, if_pos (by simpa using hreached), stepFault, hoccupied]
        rfl

end Disk

end TronWallet.Files
