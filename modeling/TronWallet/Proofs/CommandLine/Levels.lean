import TronWallet.CommandLine.Invocation
import TronWallet.Proofs.CommandLine.Numbers
import TronWallet.Proofs.Fallible

/-!
# Levels of a command line

What a level keeps of options that are written as one word each, and how the words of a
whole command line are read: options at a level, the word that opens the next one
(`readWords_enter`), and at the last level the arguments after `--` (`readWords_last`).
-/

namespace TronWallet.CommandLine

/-! ## Options in one word -/

/-- An option that is written as one word. -/
inductive Token where
  | switch (s : Switch)
  | setting (s : Setting) (value : String)
  deriving DecidableEq

namespace Token

/-- The option that is given. -/
def opt : Token → Opt
  | switch s => .switch s
  | setting s _ => .setting s

/-- An option as a word. -/
def word : Token → String
  | switch s => "--" ++ (Opt.switch s).long
  | setting s value => "--" ++ (Opt.setting s).long ++ "=" ++ value

/-- The word of an option after its two hyphens. -/
def body : Token → List Char
  | switch s => (Opt.switch s).long.toList
  | setting s value => (Opt.setting s).long.toList ++ '=' :: value.toList

theorem toList_word (t : Token) : t.word.toList = '-' :: '-' :: t.body := by
  have hhyphens : "--".toList = ['-', '-'] := rfl
  have hequals : "=".toList = ['='] := rfl
  cases t <;> simp [word, body, hhyphens, hequals]

theorem body_ne_nil (t : Token) : t.body ≠ [] := by
  cases t with
  | switch s => cases s <;> decide
  | setting s value => simp [body]

/-- The switch that is given. -/
def switch? : Token → Option Switch
  | switch s => some s
  | setting _ _ => none

/-- The option with a value that is given, and the value as it is read. -/
def argument? : Token → Option (Setting × Argument)
  | switch _ => none
  | setting s value => ((s.kind.read (Opt.setting s).shown value).toOption).map (s, ·)

/-- The value of the option, if it has one, is what it must be. -/
def Readable : Token → Prop
  | switch _ => True
  | setting s value => ∃ a, s.kind.read (Opt.setting s).shown value = .ok a

end Token

/-- Each option is given at most once and has a value that can be read. -/
structure Placeable (ts : List Token) : Prop where
  nodup : (ts.map Token.opt).Nodup
  readable : ∀ t ∈ ts, t.Readable

/-- What a level keeps of options. -/
def Level.of (ts : List Token) : Level where
  switches := ts.filterMap Token.switch?
  settings := ts.filterMap Token.argument?

/-- The command takes all options, and none of its subcommands looks like one. -/
structure Command.TakesOptions (c : Command) : Prop where
  switch : ∀ s : Switch,
    optionOf? c.description.options (Opt.switch s).long.toList = some (.switch s)
  setting : ∀ s : Setting,
    optionOf? c.description.options (Opt.setting s).long.toList = some (.setting s)
  children : ∀ d ∈ c.children, d.name.toList.head? ≠ some '-'

variable {c d : Command} {words rest : List String} {ts us : List Token} {t : Token}

theorem child?_eq_none (hc : c.TakesOptions) {word : String}
    (hword : word.toList.head? = some '-') : c.child? word = none := by
  rw [Command.child?, List.find?_eq_none]
  intro d hd hname
  apply hc.children d hd
  rwa [of_decide_eq_true hname]

theorem child?_word (hc : c.TakesOptions) (t : Token) : c.child? t.word = none :=
  child?_eq_none hc (by rw [t.toList_word, List.head?_cons])

theorem formOf_word (t : Token) : formOf t.word = .long t.body := by
  obtain ⟨c, cs, hbody⟩ := List.exists_cons_of_ne_nil t.body_ne_nil
  rw [formOf, t.toList_word, hbody]
  rfl

theorem equals_not_mem_long (o : Opt) : '=' ∉ o.long.toList := by
  cases o with
  | switch s => cases s <;> decide
  | setting s => cases s <;> decide
  | help => decide
  | version => decide

theorem takeWhile_long_append (o : Opt) (cs : List Char) :
    (o.long.toList ++ cs).takeWhile (· ≠ '=') = o.long.toList ++ cs.takeWhile (· ≠ '=') := by
  apply List.takeWhile_append_of_pos
  intro c hc
  rw [decide_eq_true_eq]
  rintro rfl
  exact equals_not_mem_long o hc

theorem Level.resolve_of_pending {l : Level} (hl : l.pending = none) : l.resolve = .ok l := by
  cases l
  cases hl
  rfl

/-- A switch that has not been given yet is added. -/
theorem readLong_switch (hc : c.TakesOptions) {l : Level} (hl : l.pending = none) {s : Switch}
    (hs : s ∉ l.switches) :
    readLong c words l (Token.switch s).body = .ok { l with switches := l.switches ++ [s] } := by
  have htake : (Opt.switch s).long.toList.takeWhile (· ≠ '=') = (Opt.switch s).long.toList := by
    simpa using takeWhile_long_append (.switch s) []
  have hadd : l.addSwitch s = .ok { l with switches := l.switches ++ [s] } := by
    rw [Level.addSwitch, Level.resolve_of_pending hl]
    exact if_neg hs
  rw [readLong, Token.body, htake, if_neg (equals_not_mem_long _), hc.switch]
  simp only [hadd, orStop]

/-- An option with a value that has not been given yet is added with the value. -/
theorem readLong_setting (hc : c.TakesOptions) {l : Level} (hl : l.pending = none) {s : Setting}
    {value : String} {a : Argument} (hs : ∀ p ∈ l.settings, p.1 ≠ s)
    (ha : s.kind.read (Opt.setting s).shown value = .ok a) :
    readLong c words l (Token.setting s value).body =
      .ok { l with settings := l.settings ++ [(s, a)] } := by
  have htake : ((Opt.setting s).long.toList ++ '=' :: value.toList).takeWhile (· ≠ '=') =
      (Opt.setting s).long.toList := by
    simpa using takeWhile_long_append (.setting s) ('=' :: value.toList)
  have hdrop : ((Opt.setting s).long.toList ++ '=' :: value.toList).drop
      ((Opt.setting s).long.toList.length + 1) = value.toList := by
    simp
  have hnew : (l.settings.any fun p => p.1 = s) = false := by
    simpa using hs
  have hadd : l.addAttached s value = .ok { l with settings := l.settings ++ [(s, a)] } := by
    rw [Level.addAttached, Level.resolve_of_pending hl]
    simp [bind, Except.bind, Level.addSetting, hnew, ha, Except.map]
  rw [readLong, Token.body, htake, hdrop, if_pos (by simp), hc.setting]
  simp only [hadd, orStop, String.ofList_toList]

theorem opt_mem_of_mem_switches {s : Switch} (h : s ∈ (Level.of ts).switches) :
    Opt.switch s ∈ ts.map Token.opt := by
  obtain ⟨t, ht, hs⟩ := List.mem_filterMap.1 h
  cases t with
  | switch r =>
      obtain rfl := Option.some.inj hs
      exact List.mem_map_of_mem ht
  | setting r value => cases hs

theorem opt_mem_of_mem_settings {p : Setting × Argument} (h : p ∈ (Level.of ts).settings) :
    Opt.setting p.1 ∈ ts.map Token.opt := by
  obtain ⟨t, ht, hp⟩ := List.mem_filterMap.1 h
  cases t with
  | switch r => cases hp
  | setting r value =>
      obtain ⟨a, -, rfl⟩ := Option.map_eq_some_iff.1 hp
      exact List.mem_map_of_mem ht

/-- One more option is read as such. -/
theorem readLong_body (hc : c.TakesOptions) (h : Placeable (ts ++ [t])) :
    readLong c words (Level.of ts) t.body = .ok (Level.of (ts ++ [t])) := by
  have hnew : t.opt ∉ ts.map Token.opt := by
    have hdisjoint := (List.nodup_append.1 (List.map_append ▸ h.nodup)).2.2
    exact fun hmem => hdisjoint _ hmem _ (by simp) rfl
  have hread := h.readable t (by simp)
  cases t with
  | switch s =>
      rw [readLong_switch hc rfl fun hs => hnew (opt_mem_of_mem_switches hs)]
      simp [Level.of, Token.switch?, Token.argument?]
  | setting s value =>
      obtain ⟨a, ha⟩ := hread
      have hsettings : ∀ p ∈ (Level.of ts).settings, p.1 ≠ s := by
        rintro p hp rfl
        exact hnew (opt_mem_of_mem_settings hp)
      rw [readLong_setting hc rfl hsettings ha]
      simp [Level.of, Token.switch?, Token.argument?, ha, Except.toOption]

theorem Placeable.append_right (h : Placeable (ts ++ us)) : Placeable us where
  nodup := (List.nodup_append.1 (List.map_append ▸ h.nodup)).2.1
  readable := fun t ht => h.readable t (List.mem_append_right ts ht)

theorem Placeable.append_left (h : Placeable (ts ++ us)) : Placeable ts where
  nodup := (List.nodup_append.1 (List.map_append ▸ h.nodup)).1
  readable := fun t ht => h.readable t (List.mem_append_left us ht)

/-- The words of options are read one after another. -/
theorem readWords_tokens (hc : c.TakesOptions) (h : Placeable (ts ++ us)) :
    readWords none c words false (Level.of ts) (us.map Token.word ++ rest) =
      readWords none c words false (Level.of (ts ++ us)) rest := by
  induction us generalizing ts with
  | nil => rw [List.map_nil, List.nil_append, List.append_nil]
  | cons u us ih =>
      rw [List.append_cons] at h ⊢
      have hstep : readWords none c words false (Level.of ts)
          (u.word :: (us.map Token.word ++ rest)) =
            readWords none c words false (Level.of (ts ++ [u])) (us.map Token.word ++ rest) := by
        rw [readWords]
        simp [Level.awaiting, child?_word hc, formOf_word, readLong_body hc h.append_left]
      rw [List.map_cons, List.cons_append, hstep, ih h]

theorem readWords_options (hc : c.TakesOptions) (h : Placeable ts) :
    readWords none c words false {} (ts.map Token.word ++ rest) =
      readWords none c words false (Level.of ts) rest :=
  readWords_tokens hc (show Placeable ([] ++ ts) from h)

/-! ## The word of a subcommand -/

theorem checkVerbosity_none (l : Level) : checkVerbosity none l = .ok () := by
  rw [checkVerbosity]
  split <;> rfl

theorem endLevel_of_not_last {l : Level} (hl : l.pending = none) :
    endLevel none c words false l = .ok l := by
  rw [endLevel, Level.resolve_of_pending hl]
  simp [bind, Except.bind, checkVerbosity_none]

/-- The word of a subcommand opens a level and ends the one at which it stands, which keeps
the options that have been given there. -/
theorem readWords_enter (hc : c.TakesOptions) (h : Placeable ts) {word : String}
    (hchild : c.child? word = some d) (hword : word ≠ helpWord) {parsed : Parsed}
    (hrest : readWords none d (words ++ [word]) false {} rest = .ok parsed) :
    readWords none c words false {} (ts.map Token.word ++ word :: rest) =
      .ok ⟨parsed.words, Level.of ts :: parsed.levels⟩ := by
  rw [readWords_options hc h, readWords]
  simp [Level.awaiting, hchild, hword, hrest, endLevel_of_not_last, orStop, Level.of, Except.map]

/-! ## Arguments -/

/-- Each argument has a value that is read as given. -/
inductive Reads : List Positional → List String → List Argument → Prop where
  | nil : Reads [] [] []
  | cons {p : Positional} {ps : List Positional} {value : String} {values : List String}
      {a : Argument} {as : List Argument} (ha : p.kind.read p.shown value = .ok a)
      (hrest : Reads ps values as) : Reads (p :: ps) (value :: values) (a :: as)

/-- A pending argument is counted before it has been looked at. -/
theorem Level.argumentCount_of_resolve {l l' : Level} (h : l.resolve = .ok l') :
    l'.arguments.length = l.argumentCount := by
  rw [Level.resolve] at h
  rw [Level.argumentCount]
  match hpending : l.pending with
  | none =>
      rw [hpending] at h
      obtain rfl := Except.ok.inj h
      rfl
  | some (.setting s none) =>
      rw [hpending] at h
      cases h
  | some (.setting s (some value)) =>
      rw [hpending] at h
      simp only [Level.addSetting] at h
      split at h
      · cases h
      · obtain ⟨a, -, rfl⟩ := Except.map_eq_ok_iff.1 h
        rfl
  | some (.positional p value) =>
      rw [hpending] at h
      obtain ⟨a, -, rfl⟩ := Except.map_eq_ok_iff.1 h
      simp

theorem resolve_positional {l : Level} {p : Positional} {value : String} {a : Argument}
    (ha : p.kind.read p.shown value = .ok a) :
    { l with pending := some (.positional p value) }.resolve =
      .ok { l with arguments := l.arguments ++ [a], pending := none } := by
  rw [Level.resolve]
  simp [ha, Except.map]

/-- After `--` the words are the arguments that are still missing, one for each. -/
theorem readWords_arguments (hneeds : c.description.needsCommand = false) {l l' : Level}
    (hl : l.resolve = .ok l') (hpending : l'.pending = none) {values : List String}
    {as : List Argument}
    (h : Reads (c.description.arguments.drop l'.arguments.length) values as) :
    readWords none c words true l values =
      .ok ⟨words, [{ l' with arguments := l'.arguments ++ as }]⟩ := by
  induction values generalizing l l' as with
  | nil =>
      generalize hmissing : c.description.arguments.drop l'.arguments.length = missing at h
      cases h with
      | nil =>
          have hall : ¬ l'.arguments.length < c.description.arguments.length := by
            simpa using hmissing
          have hend : endLevel none c words true l = .ok l' := by
            rw [endLevel, hl]
            simp [bind, Except.bind, checkVerbosity_none, hneeds, hall]
          rw [readWords, hend]
          simp [orStop, Except.map]
  | cons value values ih =>
      generalize hmissing : c.description.arguments.drop l'.arguments.length = missing at h
      cases h with
      | @cons p ps _ _ a as ha hrest =>
          have hnext : c.description.arguments[l.argumentCount]? = some p := by
            rw [← Level.argumentCount_of_resolve hl, ← List.head?_drop, hmissing]
            rfl
          have hdrop : c.description.arguments.drop (l'.arguments ++ [a]).length = ps := by
            rw [List.length_append, List.length_singleton, ← List.drop_drop, hmissing]
            rfl
          have hread : readPositional c true l value =
              .ok { l' with pending := some (.positional p value) } := by
            rw [readPositional, hnext]
            simp [hl]
          rw [readWords]
          simp only [if_true, hread]
          rw [ih (resolve_positional ha) rfl (by rwa [hdrop])]
          simp [hpending]

/-- The word before the arguments and the arguments, if there are any. -/
def argumentWords (values : List String) : List String :=
  if values = [] then [] else "--" :: values

/-- A level without subcommands reads its options and then its arguments. -/
theorem readWords_last (hc : c.TakesOptions) (hneeds : c.description.needsCommand = false)
    (h : Placeable ts) {values : List String} {as : List Argument}
    (hreads : Reads c.description.arguments values as) (words : List String) :
    readWords none c words false {} (ts.map Token.word ++ argumentWords values) =
      .ok ⟨words, [{ Level.of ts with arguments := as }]⟩ := by
  have hform : formOf "--" = .separator := rfl
  have hchild : c.child? "--" = none := child?_eq_none hc rfl
  have hseparated : readWords none c words false (Level.of ts) (argumentWords values) =
      readWords none c words true (Level.of ts) values := by
    cases values with
    | nil => rw [argumentWords, if_pos rfl, readWords, readWords]
    | cons value values =>
        rw [argumentWords, if_neg (by simp), readWords]
        simp [Level.awaiting, Level.of, hchild, hform]
  rw [readWords_options hc h, hseparated]
  exact readWords_arguments hneeds (Level.resolve_of_pending rfl) rfl hreads

end TronWallet.CommandLine
