import TronWallet.Proofs.Files.Joining
import TronWallet.Proofs.Files.Way

/-!
# Making directories

Making the directories on the way to a place changes nothing but places on this way where
nothing was (`makes_makeDirectoriesAt`), so it keeps the directories that are there; if it
succeeds the place is a directory, and where the place is one already it changes nothing.
So it can be repeated without effect. It succeeds on a way of open places
(`makeDirectoriesAt_of_open`).
-/

namespace TronWallet.Files.Disk

variable {d d' : Disk} {mode : Nat} {origin place : Location} {steps : List String}
  {ending : Ending}

/-- Every entry is as before, but at some of the places where nothing was there is a
directory now. -/
def Makes (d d' : Disk) (places : List Location) : Prop :=
  ∀ place, d'.entry place = d.entry place ∨
    (place ∈ places ∧ d.occupied place = false ∧ d'.isDirectory place = true)

theorem isDirectory_congr (h : d'.entry place = d.entry place) :
    d'.isDirectory place = d.isDirectory place := by
  rw [isDirectory, isDirectory, h]

theorem occupied_congr (h : d'.entry place = d.entry place) :
    d'.occupied place = d.occupied place := by
  rw [occupied, occupied, h]

theorem IsOpen.congr (h : d.IsOpen place) (heq : d'.entry place = d.entry place) :
    d'.IsOpen place := by
  rwa [IsOpen, isDirectory_congr heq, occupied_congr heq]

namespace Makes

variable {places : List Location}

theorem refl (d : Disk) (places : List Location) : Makes d d places :=
  fun _ => .inl rfl

theorem trans {d'' : Disk} (h : Makes d d' places) (h' : Makes d' d'' places) :
    Makes d d'' places := by
  intro place
  rcases h' place with heq' | ⟨hmem, hfree', hmade⟩
  · rcases h place with heq | ⟨hmem, hfree, hmade⟩
    · exact .inl (heq'.trans heq)
    · exact .inr ⟨hmem, hfree, by rwa [isDirectory_congr heq']⟩
  · rcases h place with heq | ⟨-, -, hdirectory⟩
    · exact .inr ⟨hmem, by rwa [← occupied_congr heq], hmade⟩
    · rw [occupied_of_isDirectory hdirectory] at hfree'
      cases hfree'

theorem mono {more : List Location} (h : Makes d d' places) (hsub : places ⊆ more) :
    Makes d d' more :=
  fun place => (h place).imp id fun ⟨hmem, hrest⟩ => ⟨hsub hmem, hrest⟩

theorem keepsDirectories (h : Makes d d' places) : KeepsDirectories d d' := by
  intro place hplace
  rcases h place with heq | ⟨-, -, hdirectory⟩
  · rwa [isDirectory_congr heq]
  · exact hdirectory

theorem isOpen (h : Makes d d' places) (hplace : d.IsOpen place) : d'.IsOpen place := by
  rcases h place with heq | ⟨-, -, hdirectory⟩
  · exact hplace.congr heq
  · exact .inl hdirectory

end Makes

theorem isDirectory_set_directory (d : Disk) (place : Location) (mode : Nat) :
    (d.set place (some (.directory mode))).isDirectory place = true := by
  simp [isDirectory]

theorem makeDirectory_eq_ok_iff :
    d.makeDirectory mode origin steps ending = .ok d' ↔
      ∃ place, d.walk origin steps = .ok place ∧ ending ≠ .dot ∧ d.occupied place = false ∧
        d' = d.set place (some (.directory mode)) := by
  rw [makeDirectory, Except.bind_eq_ok_iff]
  refine exists_congr fun place => and_congr_right fun _ => ?_
  split
  · rename_i hdot
    simp [hdot, Except.bind_eq_ok_iff]
  · rename_i hdot
    split
    · rename_i hoccupied
      simp [hoccupied]
    · rename_i hoccupied
      simp [hdot, hoccupied, eq_comm]

theorem makes_set_directory (mode : Nat) (hfree : d.occupied place = false) :
    Makes d (d.set place (some (.directory mode))) [place] := by
  intro other
  by_cases heq : other = place
  · right
    rw [heq]
    exact ⟨List.mem_singleton_self place, hfree, isDirectory_set_directory d place mode⟩
  · exact .inl (entry_set_of_ne d _ heq)

theorem reachesDirectory_of_makeDirectory
    (h : d.makeDirectory mode origin steps ending = .ok d') :
    d'.reachesDirectory origin steps = true := by
  obtain ⟨place, hwalk, -, hfree, rfl⟩ := makeDirectory_eq_ok_iff.1 h
  have hkeeps := (makes_set_directory mode hfree).keepsDirectories
  have hplace := isDirectory_set_directory d place mode
  exact reachesDirectory_iff.2 ⟨place, walk_mono hkeeps hwalk, hplace⟩

theorem makes_makeDirectory {step : String}
    (h : d.makeDirectory mode origin (steps ++ [step]) ending = .ok d') :
    Makes d d' (passing origin (steps ++ [step])) := by
  obtain ⟨place, hwalk, -, hfree, rfl⟩ := makeDirectory_eq_ok_iff.1 h
  obtain ⟨-, -, -, rfl⟩ := walk_append_singleton_eq_ok_iff.1 hwalk
  refine (makes_set_directory mode hfree).mono ?_
  rw [passing_append_singleton]
  exact List.subset_append_right _ _

theorem makes_settle {places : List Location} {result : Except Fault Disk}
    (h : ∀ made, result = .ok made → Makes d made places) :
    Makes d (d.settle origin steps result).1 places := by
  cases result with
  | ok made => exact h made rfl
  | error fault => exact .refl d places

theorem reachesDirectory_of_settle {result : Except Fault Disk}
    (hmade : ∀ made, result = .ok made → made.reachesDirectory origin steps = true)
    (h : d.settle origin steps result = (d', .ok ())) :
    d'.reachesDirectory origin steps = true := by
  cases result with
  | ok d₁ =>
      cases h
      exact hmade _ rfl
  | error fault =>
      rw [settle] at h
      by_cases hreaches : d.reachesDirectory origin steps = true
      · rw [if_pos hreaches] at h
        cases h
        exact hreaches
      · rw [if_neg hreaches] at h
        cases h

/-- Making directories changes nothing but free places on the way. -/
theorem makes_makeDirectoriesAt (mode : Nat) (origin : Location) (ending : Ending)
    (back : List String) (d : Disk) :
    Makes d (makeDirectoriesAt mode origin ending back d).1 (passing origin back.reverse) := by
  induction back generalizing ending with
  | nil => exact .refl d _
  | cons step before ih =>
      rw [makeDirectoriesAt, List.reverse_cons]
      split
      · have hsub : passing origin before.reverse ⊆ passing origin (before.reverse ++ [step]) := by
          rw [passing_append_singleton]
          exact List.subset_append_left _ _
        have hbefore := (ih .name).mono hsub
        split
        · rename_i d₁ fault heq
          rw [heq] at hbefore
          exact hbefore
        · rename_i d₁ heq
          rw [heq] at hbefore
          exact hbefore.trans (makes_settle fun made hmade => makes_makeDirectory hmade)
      · exact makes_settle fun made hmade => makes_makeDirectory hmade

/-- After its directories have been made a place is a directory. -/
theorem reachesDirectory_of_makeDirectoriesAt {back : List String} (hne : back ≠ [])
    (h : makeDirectoriesAt mode origin ending back d = (d', .ok ())) :
    d'.reachesDirectory origin back.reverse = true := by
  cases back with
  | nil => exact absurd rfl hne
  | cons step before =>
      rw [makeDirectoriesAt] at h
      split at h
      · split at h
        · cases h
        · exact reachesDirectory_of_settle (fun made hmade =>
            reachesDirectory_of_makeDirectory hmade) h
      · exact reachesDirectory_of_settle (fun made hmade =>
          reachesDirectory_of_makeDirectory hmade) h

theorem settle_of_reachesDirectory (h : d.reachesDirectory origin steps = true) (fault : Fault) :
    d.settle origin steps (.error fault) = (d, .ok ()) := by
  rw [settle, if_pos h]

theorem makeDirectory_of_reachesDirectory (h : d.reachesDirectory origin steps = true) :
    d.makeDirectory mode origin steps ending = .error .alreadyExists := by
  obtain ⟨place, hwalk, hplace⟩ := reachesDirectory_iff.1 h
  have hoccupied := occupied_of_isDirectory hplace
  simp [makeDirectory, hwalk, requireDirectory, hplace, hoccupied, bind, Except.bind]

/-- A place that is a directory is left alone. -/
theorem makeDirectoriesAt_of_reachesDirectory {back : List String}
    (h : d.reachesDirectory origin back.reverse = true) :
    makeDirectoriesAt mode origin ending back d = (d, .ok ()) := by
  cases back with
  | nil => rfl
  | cons step before =>
      rw [makeDirectoriesAt, makeDirectory_of_reachesDirectory h]
      exact settle_of_reachesDirectory h _

/-- Making directories a second time changes nothing, as long as directories are kept. -/
theorem makeDirectoriesAt_of_makeDirectoriesAt {d₁ d₂ : Disk} {back : List String}
    (h : makeDirectoriesAt mode origin ending back d = (d₁, .ok ()))
    (hkeeps : KeepsDirectories d₁ d₂) :
    makeDirectoriesAt mode origin ending back d₂ = (d₂, .ok ()) := by
  cases back with
  | nil => rfl
  | cons step before =>
      have hreaches := reachesDirectory_of_makeDirectoriesAt (List.cons_ne_nil _ _) h
      exact makeDirectoriesAt_of_reachesDirectory (reachesDirectory_mono hkeeps hreaches)

variable {working : Location} {path : String}

theorem makes_makeDirectories (d : Disk) (mode : Nat) (working : Location) (path : String) :
    Makes d (d.makeDirectories mode working path).1 (passingPath working path) := by
  rw [makeDirectories]
  split
  · exact .refl d _
  · split
    · exact .refl d _
    · rename_i p hparse
      rw [passingPath, (parsePath_eq_ok_iff.1 hparse).2.2]
      have hmakes := makes_makeDirectoriesAt mode (start working p) p.ending p.steps.reverse d
      rwa [List.reverse_reverse] at hmakes

/-! ## Success -/

/-- A last directory is made, or it is there, if all before it are there. -/
theorem settle_makeDirectory_of_open (mode : Nat) {step : String} (hending : ending ≠ .dot)
    (hfits : Fits (steps ++ [step])) (horigin : d.isDirectory origin = true)
    (hbefore : ∀ place ∈ passing origin steps, d.isDirectory place = true)
    (hopen : d.IsOpen (arrive origin (steps ++ [step]))) :
    d.makeDirectory mode origin (steps ++ [step]) ending ≠ .error .notFound ∧
      (d.settle origin (steps ++ [step])
        (d.makeDirectory mode origin (steps ++ [step]) ending)).2 = .ok () ∧
      ∀ place ∈ passing origin (steps ++ [step]), (d.settle origin (steps ++ [step])
        (d.makeDirectory mode origin (steps ++ [step]) ending)).1.isDirectory place = true := by
  have hwalk : d.walk origin (steps ++ [step]) = .ok (arrive origin (steps ++ [step])) :=
    walk_append_singleton_eq_ok_iff.2 ⟨horigin, hbefore, hfits, rfl⟩
  rw [passing_append_singleton]
  rcases hopen with hdirectory | hfree
  · have hreaches : d.reachesDirectory origin (steps ++ [step]) = true :=
      reachesDirectory_iff.2 ⟨_, hwalk, hdirectory⟩
    rw [makeDirectory_of_reachesDirectory hreaches, settle_of_reachesDirectory hreaches]
    refine ⟨by simp, rfl, ?_⟩
    rw [List.forall_mem_append, List.forall_mem_singleton]
    exact ⟨hbefore, hdirectory⟩
  · have hmade : d.makeDirectory mode origin (steps ++ [step]) ending =
        .ok (d.set (arrive origin (steps ++ [step])) (some (.directory mode))) :=
      makeDirectory_eq_ok_iff.2 ⟨_, hwalk, hending, hfree, rfl⟩
    have hkeeps := (makes_set_directory mode hfree).keepsDirectories
    rw [hmade]
    refine ⟨by simp, rfl, ?_⟩
    rw [List.forall_mem_append, List.forall_mem_singleton]
    exact ⟨fun place hplace => hkeeps place (hbefore place hplace),
      isDirectory_set_directory d _ mode⟩

theorem makeDirectoriesAt_of_open (mode : Nat) {back : List String}
    (hending : ending = .dot → back = []) (hfits : Fits back.reverse)
    (horigin : d.isDirectory origin = true)
    (hopen : ∀ place ∈ passing origin back.reverse, d.IsOpen place) :
    (makeDirectoriesAt mode origin ending back d).2 = .ok () ∧
      ∀ place ∈ passing origin back.reverse,
        (makeDirectoriesAt mode origin ending back d).1.isDirectory place = true := by
  induction back generalizing ending with
  | nil => exact ⟨rfl, by simp⟩
  | cons step before ih =>
      have hdot : ending ≠ .dot := fun hdot => List.cons_ne_nil _ _ (hending hdot)
      have hname : Ending.name = .dot → before = [] := fun hdot => nomatch hdot
      rw [List.reverse_cons] at hfits hopen ⊢
      have hfits' := (List.forall_mem_append.1 hfits).1
      rw [passing_append_singleton, List.forall_mem_append, List.forall_mem_singleton] at hopen
      rw [makeDirectoriesAt, List.reverse_cons]
      by_cases hbefore : ∀ place ∈ passing origin before.reverse, d.isDirectory place = true
      · obtain ⟨hfound, hdone⟩ :=
          settle_makeDirectory_of_open mode hdot hfits horigin hbefore hopen.2
        split
        · rename_i hmissing
          exact absurd hmissing hfound
        · exact hdone
      · have hmissing : d.makeDirectory mode origin (before.reverse ++ [step]) ending =
            .error .notFound := by
          rw [makeDirectory, walk_eq_error_of_open hfits' horigin hopen.1 hbefore
            (List.cons_ne_nil step [])]
          rfl
        have hmakes := makes_makeDirectoriesAt mode origin .name before d
        obtain ⟨hok, hmade⟩ := ih hname hfits' hopen.1
        rw [hmissing]
        cases hresult : makeDirectoriesAt mode origin .name before d with
        | mk made result =>
            rw [hresult] at hmakes hok hmade
            cases hok
            have horigin' := hmakes.keepsDirectories origin horigin
            exact (settle_makeDirectory_of_open mode hdot hfits horigin'
              hmade (hmakes.isOpen hopen.2)).2

/-- Making the parent of a joined path makes the directories of the steps before the name. -/
theorem exists_makeDirectories_parent {name directory : String} {p : Path} (h : IsName name)
    (hparse : parsePath (join directory name) = .ok p) :
    ∃ steps ending parent, p.steps = steps ++ [name] ∧ p.ending = .name ∧
      (ending = .dot → steps = []) ∧ parent? (join directory name) = some parent ∧
      ∀ (d : Disk) (mode : Nat) (working : Location), d.makeDirectories mode working parent =
        makeDirectoriesAt mode (start working p) ending steps.reverse d := by
  obtain ⟨hnul, hlength, hpath⟩ := parsePath_eq_ok_iff.1 hparse
  rw [parse?_join h, Option.some.injEq] at hpath
  subst hpath
  obtain ⟨parent, hparent, ⟨rest, hprefix⟩, hempty | ⟨ending, hparsed, hending⟩⟩ :=
    exists_parent?_join h directory
  · refine ⟨_, .name, parent, rfl, rfl, (fun hdot => nomatch hdot), hparent, ?_⟩
    intro d mode working
    rw [hempty.1, hempty.2]
    rfl
  · refine ⟨_, ending, parent, rfl, rfl, hending, hparent, ?_⟩
    intro d mode working
    have hne : parent ≠ "" := by
      rintro rfl
      cases hparsed
    have hparse : parsePath parent = .ok ⟨directory.toList.head? = some '/',
        stepsOf (Text.split '/' directory.toList), ending⟩ := by
      rw [← hprefix] at hnul hlength
      rw [Text.byteLength_append] at hlength
      rw [List.mem_append, not_or] at hnul
      exact parsePath_eq_ok_iff.2 ⟨hnul.1, by omega, hparsed⟩
    rw [makeDirectories, if_neg hne, hparse]
    rfl

theorem makeDirectories_of_makeDirectories {d₁ d₂ : Disk}
    (h : d.makeDirectories mode working path = (d₁, .ok ())) (hkeeps : KeepsDirectories d₁ d₂) :
    d₂.makeDirectories mode working path = (d₂, .ok ()) := by
  rw [makeDirectories] at h ⊢
  split at h
  · rw [if_pos ‹_›]
  · rw [if_neg ‹_›]
    split at h
    · cases h
    · exact makeDirectoriesAt_of_makeDirectoriesAt h hkeeps

end TronWallet.Files.Disk
