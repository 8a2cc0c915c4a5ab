import Mathlib.Data.List.Permutation
import TronWallet.Proofs.Program.Home
import TronWallet.Proofs.Session.Change

/-!
# Overlapping runs

A run that changes the book loads it first and writes it later, and nothing keeps other
runs of the same state directory from writing in between. A `World` has the disk, what the
runs have loaded, and two records: all changes that were written, and the chain of those
that the book on the disk comes from. A run that writes puts its own change after the chain
that it has loaded, so the changes that others have written since are lost.

Whatever the order of the steps, the book is the one that the changes of the chain come to,
and, if no run imports the book's own file, the disk is the one that the runs of the chain
leave when each is alone (`World.exists_chain_run`). The chain has all changes if and only if
no successful run is overtaken (`World.chain_run_eq_written_iff`). The invariant is
`World.Consistent`, which a step preserves (`World.consistent_step`).
-/

namespace TronWallet

open Files (Disk Location)

/-- A run that asks for a change of the book. -/
structure Writer where
  surroundings : Surroundings
  words : List String
  options : CommandLine.Options
  request : CommandLine.Request
  asks : Asks surroundings words options request
  changes : changesBook request = true

/-- What a run has loaded: its session, and the two records as they were then. -/
structure Snapshot (ι : Type) where
  session : Session
  chain : List (ι × Change)
  written : List (ι × Change)

/-- The disk between steps of runs, with what the runs have loaded that have yet to write. -/
structure World (ι : Type) where
  disk : Disk
  loaded : ι → Option (Snapshot ι)
  /-- The changes that the book on the disk comes from. -/
  chain : List (ι × Change)
  /-- All changes that were written, in the order of the writes. -/
  written : List (ι × Change)

inductive Event (ι : Type) where
  | load (i : ι)
  | write (i : ι)

namespace Writer

variable {ι : Type}

/-- The change that a run writes, if it reads its file now. -/
def wanted? (job : Writer) (disk : Disk) : Option Change :=
  wantedChange? job.surroundings disk job.options.file job.request

def run (job : Writer) (disk : Disk) : Run := execute job.surroundings disk job.words

/-- The disk after runs that are made one after the other. -/
def serialDisk (jobs : ι → Writer) (first : Disk) (order : List ι) : Disk :=
  order.foldl (fun disk i => ((jobs i).run disk).disk) first

/-- Runs that are made one after the other all succeed, and leave a disk. -/
structure Serial (jobs : ι → Writer) (first : Disk) (order : List ι) (disk : Disk) : Prop where
  succeeds : ∀ before i, before ++ [i] <+: order →
    ∃ text, ((jobs i).run (serialDisk jobs first before)).outcome = .finished text
  disk_eq : serialDisk jobs first order = disk

/-- What a run writes does not depend on the book: its file, if it imports one, is another. -/
def Unaffected (job : Writer) (first made : Disk) (home : Location) (b₀ : Book) : Prop :=
  ∀ b b' disk disk', HomeHolds first made home b₀ b disk → HomeHolds first made home b₀ b' disk' →
    job.wanted? disk = job.wanted? disk'

end Writer

namespace World

variable {ι : Type} [DecidableEq ι]

/-- No run has loaded anything. -/
def start (disk : Disk) : World ι := ⟨disk, fun _ => none, [], []⟩

/-- A run opens its session, or ends without one. -/
def load (jobs : ι → Writer) (w : World ι) (i : ι) : World ι :=
  let session := Session.opened (jobs i).surroundings w.disk (jobs i).options
  let snapshot := session.toOption.map fun session => ⟨session, w.chain, w.written⟩
  { w with loaded := Function.update w.loaded i snapshot }

/-- A run that has a session carries its request out in it, and ends. -/
def write (jobs : ι → Writer) (w : World ι) (i : ι) : World ι :=
  match w.loaded i with
  | none => w
  | some snapshot =>
    let loaded := Function.update w.loaded i none
    match snapshot.session.carryOut (jobs i).surroundings w.disk (jobs i).request with
    | (disk, .error _) => { w with disk, loaded }
    | (disk, .ok _) =>
      let own := ((jobs i).wanted? w.disk).toList.map fun change => (i, change)
      ⟨disk, loaded, snapshot.chain ++ own, w.written ++ own⟩

def step (jobs : ι → Writer) (w : World ι) : Event ι → World ι
  | .load i => w.load jobs i
  | .write i => w.write jobs i

def run (jobs : ι → Writer) (w : World ι) (events : List (Event ι)) : World ι :=
  events.foldl (step jobs) w

/-- If the step is a write that succeeds, has no other succeeded since its run has loaded? -/
def InTurn (jobs : ι → Writer) (w : World ι) (event : Event ι) : Prop :=
  ∀ i snapshot, event = .write i → w.loaded i = some snapshot →
    (w.step jobs event).written = w.written ∨ snapshot.written = w.written

/-- Is no run that succeeds overtaken? -/
def Undisturbed (jobs : ι → Writer) : World ι → List (Event ι) → Prop
  | _, [] => True
  | w, event :: events => w.InTurn jobs event ∧ Undisturbed jobs (w.step jobs event) events

end World

/-! ## Runs that are alone -/

namespace Writer

variable {ι : Type} {jobs : ι → Writer} {job : Writer} {first made disk : Disk} {home : Location}
  {b₀ b c : Book} {order : List ι} {i : ι}

theorem serialDisk_append_singleton (jobs : ι → Writer) (first : Disk) (order : List ι) (i : ι) :
    serialDisk jobs first (order ++ [i]) = ((jobs i).run (serialDisk jobs first order)).disk := by
  rw [serialDisk, List.foldl_append]
  rfl

theorem Serial.nil (jobs : ι → Writer) (first : Disk) : Serial jobs first [] first where
  succeeds := by
    intro before i hbefore
    simp at hbefore
  disk_eq := rfl

theorem Serial.append_singleton (h : Serial jobs first order disk) {text : String}
    (hrun : ((jobs i).run disk).outcome = .finished text) :
    Serial jobs first (order ++ [i]) ((jobs i).run disk).disk where
  succeeds := by
    intro before j hbefore
    rcases List.prefix_concat_iff.1 hbefore with heq | hbefore
    · obtain ⟨rfl, rfl⟩ := List.append_singleton_inj.1 heq
      rw [h.disk_eq]
      exact ⟨text, hrun⟩
    · exact h.succeeds before j hbefore
  disk_eq := by rw [serialDisk_append_singleton, h.disk_eq]

theorem unaffected_of_ne_importAccounts (h : job.request ≠ .importAccounts) :
    job.Unaffected first made home b₀ := by
  intro b b' disk disk' _ _
  rw [wanted?, wanted?]
  cases hrequest : job.request with
  | importAccounts => exact absurd hrequest h
  | _ => rfl

/-- A file that is there at first, and is not the book's, is imported as it is. -/
theorem unaffected_of_file {runs : Set Surroundings} (hshares : SharesHome first made home runs)
    (hjob : job.surroundings ∈ runs) {path text : String} {place : Location}
    (hfile : job.options.file = some path)
    (hwritable : first.writable job.surroundings.working path = .ok place)
    (hentry : first.entry place = some (.file (.text text))) (hne : place ≠ bookPlace home) :
    job.Unaffected first made home b₀ := by
  by_cases himport : job.request = .importAccounts
  · intro b b' disk disk' hholds hholds'
    have hread := hshares.read_of_homeHolds hjob hholds hwritable hentry hne
    have hread' := hshares.read_of_homeHolds hjob hholds' hwritable hentry hne
    simp only [wanted?, himport, wantedChange?, hfile, Option.bind_some, Session.importedBook,
      hread, hread']
  · exact unaffected_of_ne_importAccounts himport

/-- A run that opens a session and asks for a change of its book writes the book with it. -/
theorem run_of_wanted {session : Session} {change : Change} {after : Disk}
    (hopened : Session.opened job.surroundings disk job.options = .ok session)
    (hfile : session.settings.file = job.options.file) (hwanted : job.wanted? disk = some change)
    (happly : change.apply session.book = .ok c)
    (hsave : c.save disk job.surroundings.working job.surroundings.bookPath = (after, .ok ())) :
    (job.run disk).disk = after ∧ ∃ text, (job.run disk).outcome = .finished text := by
  rw [wanted?, ← hfile] at hwanted
  obtain ⟨text, hcarry⟩ := carryOut_of_wanted hwanted happly hsave
  obtain ⟨hdisk, houtcome⟩ := execute_of_opened job.asks hopened
  rw [hcarry] at hdisk houtcome
  exact ⟨hdisk, text, (houtcome text).2 rfl⟩

end Writer

namespace World

variable {ι : Type} [DecidableEq ι] {jobs : ι → Writer} {w : World ι} {i : ι}

/-- A run whose two steps are made together is the run by itself. -/
theorem disk_run_load_write (jobs : ι → Writer) (w : World ι) (i : ι) :
    (w.run jobs [.load i, .write i]).disk = ((jobs i).run w.disk).disk := by
  change ((w.load jobs i).write jobs i).disk = (execute _ _ _).disk
  cases hopened : Session.opened (jobs i).surroundings w.disk (jobs i).options with
  | error failure =>
      rw [(execute_of_not_opened (jobs i).asks hopened).1]
      simp [write, load, hopened, Except.toOption]
  | ok session =>
      rw [(execute_of_opened (jobs i).asks hopened).1]
      simp only [write, load, hopened, Except.toOption, Option.map_some, Function.update_self]
      split
      · rename_i hcarry
        rw [hcarry]
      · rename_i hcarry
        rw [hcarry]

end World

/-! ## What every order of steps keeps -/

theorem World.of_update {ι : Type} [DecidableEq ι] {loaded : ι → Option (Snapshot ι)} {i j : ι}
    {snapshot : Snapshot ι} (h : Function.update loaded i none j = some snapshot) :
    loaded j = some snapshot := by
  by_cases hij : j = i
  · rw [hij, Function.update_self] at h
    cases h
  · rwa [Function.update_of_ne hij] at h

/-- The chain of a book, among all changes that were written: the book comes from it, and the
last change is not lost. -/
structure IsChain {ι : Type} (b₀ : Book) (chain written : List (ι × Change)) (b : Book) : Prop where
  applied : Change.applyAll b₀ (chain.map Prod.snd) = .ok b
  sublist : chain.Sublist written
  last : chain.getLast? = written.getLast?

theorem IsChain.append_singleton {ι : Type} {b₀ b c : Book} {chain written : List (ι × Change)}
    (h : IsChain b₀ chain written b) {later : List (ι × Change)} (hlater : written <+: later)
    {i : ι} {change : Change} (happly : change.apply b = .ok c) :
    IsChain b₀ (chain ++ [(i, change)]) (later ++ [(i, change)]) c where
  applied := by
    rw [List.map_append]
    exact Change.applyAll_append_singleton h.applied happly
  sublist := (h.sublist.trans hlater.sublist).append_right [(i, change)]
  last := by rw [List.getLast?_concat, List.getLast?_concat]

section Consistent

variable {ι : Type} {jobs : ι → Writer} {first made : Disk} {home : Location} {b₀ b c : Book}
  {i : ι}

/-- A snapshot that has been taken of a chain, which is still what it was. -/
structure Snapshot.Consistent (jobs : ι → Writer) (first made : Disk) (home : Location)
    (b₀ : Book) (snapshot : Snapshot ι) (i : ι) (written : List (ι × Change)) : Prop where
  file : snapshot.session.settings.file = (jobs i).options.file
  chain : IsChain b₀ snapshot.chain snapshot.written snapshot.session.book
  taken : snapshot.written <+: written
  serial : (∀ i, (jobs i).Unaffected first made home b₀) → ∃ b disk,
    HomeHolds first made home b₀ b disk ∧
      Writer.Serial jobs first (snapshot.chain.map Prod.fst) disk ∧
      Session.opened (jobs i).surroundings disk (jobs i).options = .ok snapshot.session

/-- The disk has the book of the chain, and each snapshot has that of its own. -/
structure World.Consistent (jobs : ι → Writer) (first made : Disk) (home : Location) (b₀ : Book)
    (w : World ι) : Prop where
  holds : ∃ b, HomeHolds first made home b₀ b w.disk ∧ IsChain b₀ w.chain w.written b
  serial : (∀ i, (jobs i).Unaffected first made home b₀) →
    Writer.Serial jobs first (w.chain.map Prod.fst) w.disk
  loaded : ∀ i snapshot, w.loaded i = some snapshot →
    snapshot.Consistent jobs first made home b₀ i w.written

namespace World

theorem consistent_start (jobs : ι → Writer) (first made : Disk) (home : Location) (b₀ : Book) :
    (start first : World ι).Consistent jobs first made home b₀ where
  holds := ⟨b₀, .start, rfl, .slnil, rfl⟩
  serial := fun _ => .nil jobs first
  loaded := by
    intro i snapshot hloaded
    cases hloaded

variable [DecidableEq ι] {w : World ι} {snapshot : Snapshot ι}
  (hshares : SharesHome first made home (Set.range fun i => (jobs i).surroundings))

include hshares

theorem consistent_load (hstart : StartsWith first made home b₀)
    (hworking : ∀ i, first.isDirectory (jobs i).surroundings.working = true)
    (h : w.Consistent jobs first made home b₀) (i : ι) :
    (w.load jobs i).Consistent jobs first made home b₀ where
  holds := h.holds
  serial := h.serial
  loaded := by
    intro j snapshot hloaded
    by_cases hij : j = i
    · subst hij
      rw [load] at hloaded
      dsimp only at hloaded
      rw [Function.update_self, Option.map_eq_some_iff] at hloaded
      obtain ⟨session, hopened, rfl⟩ := hloaded
      rw [Except.toOption_eq_some_iff] at hopened
      obtain ⟨b, hholds, hchain⟩ := h.holds
      have hload := hshares.load_of_homeHolds ⟨j, rfl⟩ hstart (hworking j) hholds
      obtain ⟨config, -, hsettings, -, -, hbook⟩ := (opened_eq_ok_iff hload).1 hopened
      exact
        { file := by rw [hsettings]; rfl
          chain := by rwa [hbook]
          taken := List.prefix_refl w.written
          serial := fun hunaffected => ⟨b, w.disk, hholds, h.serial hunaffected, hopened⟩ }
    · rw [load] at hloaded
      dsimp only at hloaded
      rw [Function.update_of_ne hij] at hloaded
      exact h.loaded j snapshot hloaded

/-- A run that has a session fails and changes nothing, or its change comes after the chain
that it has loaded. -/
theorem write_cases (hholds : HomeHolds first made home b₀ b w.disk)
    (hloaded : w.loaded i = some snapshot)
    (hfile : snapshot.session.settings.file = (jobs i).options.file) :
    w.write jobs i = { w with loaded := Function.update w.loaded i none } ∨
      ∃ change c, (jobs i).wanted? w.disk = some change ∧
        change.apply snapshot.session.book = .ok c ∧
        w.write jobs i = ⟨diskWith made home c, Function.update w.loaded i none,
          snapshot.chain ++ [(i, change)], w.written ++ [(i, change)]⟩ := by
  rw [write, hloaded]
  dsimp only
  by_cases hsome : ∃ change c, (jobs i).wanted? w.disk = some change ∧
      change.apply snapshot.session.book = .ok c
  · obtain ⟨change, c, hwanted, happly⟩ := hsome
    have hsave := hshares.save_of_homeHolds ⟨i, rfl⟩ hholds c
    have hwanted' := hwanted
    rw [Writer.wanted?, ← hfile] at hwanted'
    obtain ⟨text, hcarry⟩ := carryOut_of_wanted hwanted' happly hsave
    refine .inr ⟨change, c, hwanted, happly, ?_⟩
    simp only [hcarry, hwanted, Option.toList_some, List.map_cons, List.map_nil]
  · have hnone : ∀ change c, wantedChange? (jobs i).surroundings w.disk
        snapshot.session.settings.file (jobs i).request = some change →
          change.apply snapshot.session.book ≠ .ok c := by
      intro change c hwanted happly
      rw [hfile] at hwanted
      exact hsome ⟨change, c, hwanted, happly⟩
    obtain ⟨failure, hcarry⟩ := carryOut_of_unwanted (jobs i).changes hnone
    left
    simp only [hcarry]

theorem consistent_write (h : w.Consistent jobs first made home b₀) (i : ι) :
    (w.write jobs i).Consistent jobs first made home b₀ := by
  cases hloaded : w.loaded i with
  | none =>
      rw [write, hloaded]
      exact h
  | some snapshot =>
      have hsnapshot := h.loaded i snapshot hloaded
      obtain ⟨b, hholds, -⟩ := h.holds
      rcases write_cases hshares hholds hloaded hsnapshot.file with
        hwrite | ⟨change, c, hwanted, happly, hwrite⟩
      · rw [hwrite]
        exact ⟨h.holds, h.serial, fun j other hother => h.loaded j other (of_update hother)⟩
      · rw [hwrite]
        refine ⟨⟨c, .written c, hsnapshot.chain.append_singleton hsnapshot.taken happly⟩, ?_, ?_⟩
        · intro hunaffected
          obtain ⟨b', disk, hholds', hserial, hopened⟩ := hsnapshot.serial hunaffected
          -- By itself, on the disk that it has loaded, the run writes the same book.
          have hwanted' := (hunaffected i b' b disk w.disk hholds' hholds).trans hwanted
          have hsave := hshares.save_of_homeHolds ⟨i, rfl⟩ hholds' c
          obtain ⟨hdisk, text, houtcome⟩ :=
            Writer.run_of_wanted hopened hsnapshot.file hwanted' happly hsave
          have happend := hserial.append_singleton houtcome
          rw [hdisk] at happend
          rwa [List.map_append]
        · intro j other hother
          have hconsistent := h.loaded j other (of_update hother)
          exact { hconsistent with taken := hconsistent.taken.trans (List.prefix_append _ _) }

theorem consistent_step (hstart : StartsWith first made home b₀)
    (hworking : ∀ i, first.isDirectory (jobs i).surroundings.working = true)
    (h : w.Consistent jobs first made home b₀) (event : Event ι) :
    (w.step jobs event).Consistent jobs first made home b₀ := by
  cases event with
  | load i => exact consistent_load hshares hstart hworking h i
  | write i => exact consistent_write hshares h i

theorem consistent_run (hstart : StartsWith first made home b₀)
    (hworking : ∀ i, first.isDirectory (jobs i).surroundings.working = true)
    (h : w.Consistent jobs first made home b₀) (events : List (Event ι)) :
    (w.run jobs events).Consistent jobs first made home b₀ := by
  induction events generalizing w with
  | nil => exact h
  | cons event events ih => exact ih (consistent_step hshares hstart hworking h event)

/-! ## When no change is lost -/

/-- What a step does to the records: it keeps them, and may take a snapshot of them, or it is
a write that succeeds. -/
theorem records_step (h : w.Consistent jobs first made home b₀) (event : Event ι) :
    ((w.step jobs event).chain = w.chain ∧ (w.step jobs event).written = w.written ∧
      ∀ i snapshot, (w.step jobs event).loaded i = some snapshot →
        w.loaded i = some snapshot ∨ (snapshot.chain = w.chain ∧ snapshot.written = w.written)) ∨
    ∃ i snapshot change, event = .write i ∧ w.loaded i = some snapshot ∧
      (w.step jobs event).chain = snapshot.chain ++ [(i, change)] ∧
      (w.step jobs event).written = w.written ++ [(i, change)] ∧
      ∀ j other, (w.step jobs event).loaded j = some other → w.loaded j = some other := by
  cases event with
  | load i =>
      refine .inl ⟨rfl, rfl, fun j snapshot hloaded => ?_⟩
      rw [step, load] at hloaded
      dsimp only at hloaded
      by_cases hij : j = i
      · rw [hij, Function.update_self, Option.map_eq_some_iff] at hloaded
        obtain ⟨session, -, rfl⟩ := hloaded
        exact .inr ⟨rfl, rfl⟩
      · rw [Function.update_of_ne hij] at hloaded
        exact .inl hloaded
  | write i =>
      rw [step]
      cases hloaded : w.loaded i with
      | none =>
          rw [write, hloaded]
          exact .inl ⟨rfl, rfl, fun j snapshot hother => .inl hother⟩
      | some snapshot =>
          obtain ⟨b, hholds, -⟩ := h.holds
          rcases write_cases hshares hholds hloaded (h.loaded i snapshot hloaded).file with
            hwrite | ⟨change, c, -, -, hwrite⟩
          · rw [hwrite]
            exact .inl ⟨rfl, rfl, fun j other hother => .inl (of_update hother)⟩
          · rw [hwrite]
            exact .inr ⟨i, snapshot, change, rfl, hloaded, rfl, rfl,
              fun j other hother => of_update hother⟩

end World

/-- No change is lost, nor would one be by a write that is not overtaken. -/
structure World.Complete (w : World ι) : Prop where
  chain : w.chain = w.written
  loaded : ∀ i snapshot, w.loaded i = some snapshot → snapshot.chain = snapshot.written

/-- Changes are lost, and no run can bring them back. -/
structure World.Lossy (w : World ι) : Prop where
  chain : w.chain.length < w.written.length
  loaded : ∀ i snapshot, w.loaded i = some snapshot →
    snapshot.chain.length < snapshot.written.length ∨ snapshot.written.length < w.written.length

namespace World

variable [DecidableEq ι] {w : World ι} {snapshot : Snapshot ι}
  (hshares : SharesHome first made home (Set.range fun i => (jobs i).surroundings))

include hshares

theorem Complete.step (hcomplete : w.Complete) (h : w.Consistent jobs first made home b₀)
    {event : Event ι} (hturn : w.InTurn jobs event) : (w.step jobs event).Complete := by
  rcases records_step hshares h event with
    ⟨hchain, hwritten, hloaded⟩ | ⟨i, snapshot, change, hevent, hown, hchain, hwritten, hloaded⟩
  · refine ⟨by rw [hchain, hwritten, hcomplete.chain], fun i snapshot hsome => ?_⟩
    rcases hloaded i snapshot hsome with hsome | ⟨hchain, hwritten⟩
    · exact hcomplete.loaded i snapshot hsome
    · rw [hchain, hwritten, hcomplete.chain]
  · refine ⟨?_, fun j other hsome => hcomplete.loaded j other (hloaded j other hsome)⟩
    rcases hturn i snapshot hevent hown with hsame | hsame
    · rw [hwritten] at hsame
      simp at hsame
    · rw [hchain, hwritten, hcomplete.loaded i snapshot hown, hsame]

theorem Lossy.step (hlossy : w.Lossy) (h : w.Consistent jobs first made home b₀)
    (event : Event ι) : (w.step jobs event).Lossy := by
  rcases records_step hshares h event with
    ⟨hchain, hwritten, hloaded⟩ | ⟨i, snapshot, change, hevent, hown, hchain, hwritten, hloaded⟩
  · refine ⟨by rw [hchain, hwritten]; exact hlossy.chain, fun i snapshot hsome => ?_⟩
    rw [hwritten]
    rcases hloaded i snapshot hsome with hsome | ⟨hchain, hwritten⟩
    · exact hlossy.loaded i snapshot hsome
    · rw [hchain, hwritten]
      exact .inl hlossy.chain
  · have hsnapshot := h.loaded i snapshot hown
    have hlength := hsnapshot.chain.sublist.length_le
    have htaken := hsnapshot.taken.length_le
    refine ⟨?_, fun j other hsome => ?_⟩
    · rw [hchain, hwritten, List.length_append, List.length_append]
      rcases hlossy.loaded i snapshot hown with hless | hless <;> omega
    · rw [hwritten, List.length_append, List.length_singleton]
      rcases hlossy.loaded j other (hloaded j other hsome) with hless | hless
      · exact .inl hless
      · exact .inr (hless.trans (Nat.lt_succ_self _))

theorem lossy_step (h : w.Consistent jobs first made home b₀) {event : Event ι}
    (hturn : ¬ w.InTurn jobs event) : (w.step jobs event).Lossy := by
  rw [InTurn] at hturn
  push Not at hturn
  obtain ⟨i, snapshot, rfl, hown, hsuccess, hovertaken⟩ := hturn
  rcases records_step hshares h (.write i) with
    ⟨-, hwritten, -⟩ | ⟨j, other, change, hevent, hother, hchain, hwritten, hloaded⟩
  · exact absurd hwritten hsuccess
  · cases hevent
    rw [hown] at hother
    cases hother
    have hsnapshot := h.loaded i snapshot hown
    have hlength := hsnapshot.chain.sublist.length_le
    have htaken : snapshot.written.length < w.written.length :=
      lt_of_le_of_ne hsnapshot.taken.length_le fun heq =>
        hovertaken (hsnapshot.taken.eq_of_length heq)
    refine ⟨?_, fun j other hsome => .inr ?_⟩
    · rw [hchain, hwritten, List.length_append, List.length_append]
      omega
    · have hbefore := (h.loaded j other (hloaded j other hsome)).taken.length_le
      rw [hwritten, List.length_append, List.length_singleton]
      omega

variable (hstart : StartsWith first made home b₀)
  (hworking : ∀ i, first.isDirectory (jobs i).surroundings.working = true)

include hstart hworking

theorem Lossy.run (hlossy : w.Lossy) (h : w.Consistent jobs first made home b₀)
    (events : List (Event ι)) : (w.run jobs events).Lossy := by
  induction events generalizing w with
  | nil => exact hlossy
  | cons event events ih =>
      exact ih (hlossy.step hshares h event) (consistent_step hshares hstart hworking h event)

/-- A run that succeeds after it was overtaken loses changes for good. -/
theorem chain_run_eq_written_iff (hcomplete : w.Complete)
    (h : w.Consistent jobs first made home b₀) (events : List (Event ι)) :
    (w.run jobs events).chain = (w.run jobs events).written ↔ Undisturbed jobs w events := by
  induction events generalizing w with
  | nil => exact iff_of_true hcomplete.chain trivial
  | cons event events ih =>
      have hnext := consistent_step hshares hstart hworking h event
      by_cases hturn : w.InTurn jobs event
      · refine (ih (hcomplete.step hshares h hturn) hnext).trans ?_
        exact (and_iff_right hturn).symm
      · refine iff_of_false ?_ fun hall => hturn hall.1
        have hlossy := lossy_step hshares h hturn
        have hless := (hlossy.run hshares hstart hworking hnext events).chain
        exact fun heq => hless.ne (congrArg List.length heq)

/-- After steps of any runs in any order, all runs load one book. It comes from the book at
the start by the changes of a chain of runs, which is in the order of the writes and has the
last one; an account that is added in the chain, and not removed later in it, is there. If
the imports are of other files, the disk is the one that the runs of the chain leave one
after the other, where all of them succeed. The chain has all runs that succeed if and only
if none of these is overtaken. -/
theorem exists_chain_run (events : List (Event ι)) :
    let w := World.run jobs (.start first) events
    ∃ b, (∀ i, Book.load w.disk (jobs i).surroundings.working (jobs i).surroundings.bookPath =
        .ok b) ∧
      Change.applyAll b₀ (w.chain.map Prod.snd) = .ok b ∧
      w.chain.Sublist w.written ∧ w.chain.getLast? = w.written.getLast? ∧
      (∀ before i change after name address, w.chain = before ++ (i, change) :: after →
        (name, address) ∈ change.added → (∀ later ∈ after, later.2 ≠ .remove name) →
          b.get? name = some address) ∧
      ((∀ i, (jobs i).Unaffected first made home b₀) →
        Writer.Serial jobs first (w.chain.map Prod.fst) w.disk) ∧
      (w.chain = w.written ↔ Undisturbed jobs (.start first) events) := by
  have hfirst := consistent_start jobs first made home b₀
  have hlast := consistent_run hshares hstart hworking hfirst events
  obtain ⟨b, hholds, hchain⟩ := hlast.holds
  refine ⟨b, ?_, hchain.applied, hchain.sublist, hchain.last, ?_, hlast.serial, ?_⟩
  · exact fun i => hshares.load_of_homeHolds ⟨i, rfl⟩ hstart (hworking i) hholds
  · intro before i change after name address heq hadded hkept
    have happlied := hchain.applied
    rw [heq, List.map_append, List.map_cons] at happlied
    refine Change.get?_applyAll_of_added happlied hadded fun later hlater => ?_
    obtain ⟨p, hp, rfl⟩ := List.mem_map.1 hlater
    exact hkept p hp
  · have hcomplete : (World.start first : World ι).Complete :=
      ⟨rfl, fun i snapshot hloaded => by cases hloaded⟩
    exact chain_run_eq_written_iff hshares hstart hworking hcomplete hfirst events

end World

end Consistent

/-! ## Two accounts that are added -/

def zeros : Address := ⟨List.replicate 20 0, rfl⟩

/-- One run adds an account, and another run a second one. -/
def twoAdds (second : Bool) : Writer where
  surroundings := freshSurroundings
  words := ["accounts", "add", if second then "bob" else "alice",
    "T9yD14Nj9j7xAB4dbGeiX9h8unkKHxuWwb"]
  options := {}
  request := .addAccount (if second then "bob" else "alice") "T9yD14Nj9j7xAB4dbGeiX9h8unkKHxuWwb"
  asks := by cases second <;> rfl
  changes := rfl

/-- Both accounts are there when the second run loads after the first has written. When both load
before either writes, the chain is the second run alone, and only its account is there. -/
theorem exists_chain_run_twoAdds :
    SharesHome .empty freshHome ["state"] (Set.range fun i => (twoAdds i).surroundings) ∧
      StartsWith .empty freshHome ["state"] .empty ∧
      (∀ i, Disk.empty.isDirectory (twoAdds i).surroundings.working = true) ∧
      (∃ b, Book.load (World.run twoAdds (.start .empty)
          [.load false, .write false, .load true, .write true]).disk [] "/state/accounts.toml" =
            .ok b ∧
        b.get? "alice" = some zeros ∧ b.get? "bob" = some zeros) ∧
      let overlapping : List (Event Bool) := [.load false, .load true, .write false, .write true]
      let w := World.run twoAdds (.start .empty) overlapping
      w.written.map Prod.fst = [false, true] ∧
        ¬ World.Undisturbed twoAdds (.start .empty) overlapping ∧
        Writer.Serial twoAdds .empty [true] w.disk ∧
        ∃ b, Book.load w.disk [] "/state/accounts.toml" = .ok b ∧
          b.get? "alice" = none ∧ b.get? "bob" = some zeros := by
  have hshares : SharesHome .empty freshHome ["state"]
      (Set.range fun i => (twoAdds i).surroundings) := by
    apply sharesHome_fresh
    rintro s ⟨i, rfl⟩
    rfl
  have hstart : StartsWith .empty freshHome ["state"] .empty := .inl ⟨by decide +kernel, rfl⟩
  have hworking : ∀ i, Disk.empty.isDirectory (twoAdds i).surroundings.working = true :=
    fun i => rfl
  refine ⟨hshares, hstart, hworking, ?_, ?_⟩
  · have hchain : (World.run twoAdds (.start .empty)
        [.load false, .write false, .load true, .write true]).chain =
          [(false, .register "alice" zeros), (true, .register "bob" zeros)] := by
      decide +kernel
    obtain ⟨b, hload, -, -, -, hadded, -, -⟩ := World.exists_chain_run hshares hstart hworking
      [.load false, .write false, .load true, .write true]
    refine ⟨b, hload false, ?_, ?_⟩
    · exact hadded [] false _ [(true, .register "bob" zeros)] "alice" zeros hchain
        (by decide +kernel) (by simp)
    · exact hadded [(false, .register "alice" zeros)] true _ [] "bob" zeros hchain
        (by decide +kernel) (by simp)
  · intro overlapping w
    have hchain : w.chain = [(true, .register "bob" zeros)] := by decide +kernel
    have hwritten : w.written.map Prod.fst = [false, true] := by decide +kernel
    obtain ⟨b, hload, happlied, -, -, hadded, hserial, hundisturbed⟩ :=
      World.exists_chain_run hshares hstart hworking overlapping
    have hserial : Writer.Serial twoAdds .empty (w.chain.map Prod.fst) w.disk :=
      hserial fun i => Writer.unaffected_of_ne_importAccounts (by cases i <;> simp [twoAdds])
    have happlied : Change.applyAll .empty (w.chain.map Prod.snd) = .ok b := happlied
    rw [hchain] at hserial happlied
    have halone : (Change.applyAll .empty [.register "bob" zeros]).map (·.get? "alice") =
        .ok none := by
      decide +kernel
    refine ⟨hwritten, fun hall => ?_, hserial, b, hload false, ?_, ?_⟩
    · have hlengths := congrArg List.length (hundisturbed.2 hall)
      have hlength := congrArg List.length hwritten
      rw [List.length_map] at hlength
      exact absurd ((congrArg List.length hchain).symm.trans (hlengths.trans hlength))
        (by decide)
    · have happlied : Change.applyAll .empty [.register "bob" zeros] = .ok b := happlied
      rw [happlied] at halone
      exact Except.ok.inj halone
    · exact hadded [] true _ [] "bob" zeros hchain (by decide +kernel) (by simp)

/-- When both runs load before either writes, both succeed, but the account that was written
first is lost. No order of the two has this result. -/
theorem lost_twoAdds :
    let w := World.run twoAdds (.start .empty) [.load false, .load true, .write false, .write true]
    w.written.map Prod.fst = [false, true] ∧
      ((Book.load w.disk [] "/state/accounts.toml").toOption.map fun b =>
        b.pairs.map Prod.fst) = some ["bob"] ∧
      ¬ ∃ order, order.Perm (w.written.map Prod.fst) ∧
        Book.load (Writer.serialDisk twoAdds .empty order) [] "/state/accounts.toml" =
          Book.load w.disk [] "/state/accounts.toml" := by
  intro w
  have hresult : w.written.map Prod.fst = [false, true] ∧
      ((Book.load w.disk [] "/state/accounts.toml").toOption.map fun b =>
        b.pairs.map Prod.fst) = some ["bob"] := by
    decide +kernel
  obtain ⟨hwritten, hnames⟩ := hresult
  refine ⟨hwritten, hnames, ?_⟩
  rintro ⟨order, hperm, hload⟩
  rw [← hload] at hnames
  rw [hwritten, List.perm_pair] at hperm
  rcases hperm with rfl | rfl
  · exact absurd hnames (by decide +kernel)
  · exact absurd hnames (by decide +kernel)

end TronWallet
