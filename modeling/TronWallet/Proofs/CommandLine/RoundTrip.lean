import TronWallet.Proofs.CommandLine.Levels
import TronWallet.Settings

/-!
# A command line is read as it was meant

Options may stand before the word of a command, between it and the word of its subcommand,
and after that. A `Choice` says which options are given; wherever their words are placed,
the command line is read as the request and the options that were meant
(`parse_commandLine`). Which of the levels an option stands at makes no difference because
no option stands at two of them (`valueOf?_eq`).
-/

namespace TronWallet.CommandLine

/-! ## The options that are given -/

/-- Options that are given, each with a value that it may have. -/
structure Choice where
  verbose : Bool := false
  signer : Option String := none
  node : Option String := none
  noPretty : Bool := false
  dryRun : Bool := false
  timeout : Option UInt32 := none
  ledger : Bool := false
  file : Option String := none
  file_ne : file ≠ some "" := by simp

namespace Choice

/-- The options of a run for which these are given. -/
def options (c : Choice) : Options where
  verbose := c.verbose
  signer := c.signer
  node := c.node
  noPretty := c.noPretty
  dryRun := c.dryRun
  timeout := (c.timeout.map UInt32.toNat).getD defaultTimeout
  ledger := c.ledger
  file := c.file

/-- Is a switch given? -/
def on (c : Choice) : Switch → Bool
  | .verbose => c.verbose
  | .noPretty => c.noPretty
  | .dryRun => c.dryRun
  | .ledger => c.ledger

/-- The text that is given for the value of an option. -/
def text? (c : Choice) : Setting → Option String
  | .signer => c.signer
  | .node => c.node
  | .timeout => c.timeout.map fun n => Text.Decimal.natString n.toNat
  | .file => c.file

/-- The words of the options that are given. -/
def tokens (c : Choice) : List Token :=
  ([.verbose, .noPretty, .dryRun, .ledger].filter c.on).map .switch ++
    [.signer, .node, .timeout, .file].filterMap fun s => (c.text? s).map (.setting s)

variable {c : Choice}

theorem switch_mem_tokens {s : Switch} : .switch s ∈ c.tokens ↔ c.on s = true := by
  cases s <;> simp [tokens]

theorem setting_mem_tokens {s : Setting} {value : String} :
    .setting s value ∈ c.tokens ↔ c.text? s = some value := by
  cases s <;> simp [tokens]

/-- The value that is given for an option, as it is read. -/
def argument? (c : Choice) : Setting → Option Argument
  | .signer => c.signer.map .text
  | .node => c.node.map .text
  | .timeout => c.timeout.map fun n => .number n.toNat
  | .file => c.file.map .text

theorem read_text? {s : Setting} {value : String} (h : c.text? s = some value) :
    ∃ a, c.argument? s = some a ∧ s.kind.read (Opt.setting s).shown value = .ok a := by
  cases s with
  | signer =>
      have hsigner : c.signer = some value := h
      exact ⟨.text value, by rw [argument?, hsigner, Option.map_some], rfl⟩
  | node =>
      have hnode : c.node = some value := h
      exact ⟨.text value, by rw [argument?, hnode, Option.map_some], rfl⟩
  | timeout =>
      obtain ⟨n, hn, rfl⟩ := Option.map_eq_some_iff.1 h
      refine ⟨.number n.toNat, by rw [argument?, hn, Option.map_some], ?_⟩
      rw [Setting.kind, Kind.read, readSeconds_natString n.toNat_lt]
  | file =>
      have hfile : c.file = some value := h
      have hne : value ≠ "" := by
        rintro rfl
        exact c.file_ne hfile
      exact ⟨.text value, by rw [argument?, hfile, Option.map_some], if_neg hne⟩

theorem exists_text? {s : Setting} {a : Argument} (h : c.argument? s = some a) :
    ∃ value, c.text? s = some value := by
  cases s <;> obtain ⟨value, hvalue, -⟩ := Option.map_eq_some_iff.1 h <;>
    simp [text?, hvalue]

theorem placeable_tokens (c : Choice) : Placeable c.tokens where
  nodup := by
    have hopt : ∀ s o, ((c.text? s).map (Token.setting s)).map Token.opt = some o →
        o = .setting s := by
      intro s o h
      obtain ⟨t, ht, rfl⟩ := Option.map_eq_some_iff.1 h
      obtain ⟨value, -, rfl⟩ := Option.map_eq_some_iff.1 ht
      rfl
    rw [tokens, List.map_append, List.map_map, List.map_filterMap]
    apply List.Nodup.append
    · exact List.Nodup.map (fun _ _ => Opt.switch.inj) (List.Nodup.filter _ (by decide))
    · refine List.Nodup.filterMap ?_ (by decide)
      intro s s' o hs hs'
      exact Opt.setting.inj ((hopt s o hs).symm.trans (hopt s' o hs'))
    · intro o hswitch hsetting
      obtain ⟨s, -, rfl⟩ := List.mem_map.1 hswitch
      obtain ⟨s', -, hs'⟩ := List.mem_filterMap.1 hsetting
      cases hopt s' _ hs'
  readable := by
    intro t ht
    cases t with
    | switch s => trivial
    | setting s value =>
        obtain ⟨a, -, ha⟩ := read_text? (setting_mem_tokens.1 ht)
        exact ⟨a, ha⟩

end Choice

theorem Placeable.perm {ts us : List Token} (h : Placeable us) (hperm : ts.Perm us) :
    Placeable ts where
  nodup := (hperm.map Token.opt).nodup_iff.2 h.nodup
  readable := fun t ht => h.readable t (hperm.mem_iff.1 ht)

/-! ## The options of levels -/

theorem given_iff {levels : List Level} {s : Switch} :
    given levels s = true ↔ s ∈ levels.flatMap Level.switches := by
  simp [given]

/-- Where no two levels give different values, it makes no difference which level does. -/
theorem valueOf?_eq {levels : List Level} {s : Setting} {o : Option Argument}
    (h : ∀ a, (s, a) ∈ levels.flatMap Level.settings ↔ o = some a) : valueOf? levels s = o := by
  cases hvalue : valueOf? levels s with
  | none =>
      cases o with
      | none => rfl
      | some a =>
          obtain ⟨l, hl, hmem⟩ := List.mem_flatMap.1 ((h a).2 rfl)
          have hnone := List.findSome?_eq_none_iff.1 hvalue l (List.mem_reverse.2 hl)
          rw [Option.map_eq_none_iff, List.find?_eq_none] at hnone
          exact absurd (decide_eq_true rfl) (hnone (s, a) hmem)
  | some a =>
      obtain ⟨l, hl, hfound⟩ := List.exists_of_findSome?_eq_some hvalue
      obtain ⟨⟨s', a'⟩, hfind, rfl⟩ := Option.map_eq_some_iff.1 hfound
      have hs : decide (s' = s) = true := 
        @List.find?_some _ (fun p : Setting × Argument => decide (p.1 = s)) _ _ hfind
      obtain rfl := of_decide_eq_true hs
      refine ((h a').1 ?_).symm
      exact List.mem_flatMap.2 ⟨l, List.mem_reverse.1 hl, List.mem_of_find?_eq_some hfind⟩

theorem switch_mem_filterMap {ts : List Token} {s : Switch} :
    s ∈ ts.filterMap Token.switch? ↔ .switch s ∈ ts := by
  rw [List.mem_filterMap]
  constructor
  · rintro ⟨t, ht, hs⟩
    cases t with
    | switch r =>
        obtain rfl := Option.some.inj hs
        exact ht
    | setting r value => cases hs
  · exact fun h => ⟨.switch s, h, rfl⟩

theorem setting_mem_filterMap {ts : List Token} {s : Setting} {a : Argument} :
    (s, a) ∈ ts.filterMap Token.argument? ↔
      ∃ value, .setting s value ∈ ts ∧ s.kind.read (Opt.setting s).shown value = .ok a := by
  rw [List.mem_filterMap]
  constructor
  · rintro ⟨t, ht, hread⟩
    cases t with
    | switch r => cases hread
    | setting r value =>
        obtain ⟨b, hb, heq⟩ := Option.map_eq_some_iff.1 hread
        obtain ⟨rfl, rfl⟩ := Prod.mk.inj heq
        exact ⟨value, ht, Except.toOption_eq_some_iff.1 hb⟩
  · rintro ⟨value, ht, hread⟩
    refine ⟨.setting s value, ht, ?_⟩
    rw [Token.argument?, hread]
    rfl

theorem ofLevels_eq {c : Choice} {levels : List Level} {ts : List Token}
    (hperm : ts.Perm c.tokens)
    (hswitches : levels.flatMap Level.switches = ts.filterMap Token.switch?)
    (hsettings : levels.flatMap Level.settings = ts.filterMap Token.argument?) :
    Options.ofLevels none levels = c.options := by
  have hgiven : ∀ s, given levels s = c.on s := by
    intro s
    rw [Bool.eq_iff_iff, given_iff, hswitches, switch_mem_filterMap, hperm.mem_iff,
      Choice.switch_mem_tokens]
  have hvalue : ∀ s, valueOf? levels s = c.argument? s := by
    intro s
    apply valueOf?_eq
    intro a
    rw [hsettings, setting_mem_filterMap]
    constructor
    · rintro ⟨value, hmem, hread⟩
      rw [hperm.mem_iff, Choice.setting_mem_tokens] at hmem
      obtain ⟨b, hb, hagain⟩ := Choice.read_text? hmem
      rw [hread] at hagain
      rw [hb, Except.ok.inj hagain]
    · intro ha
      obtain ⟨value, hvalue⟩ := Choice.exists_text? ha
      obtain ⟨b, hb, hread⟩ := Choice.read_text? hvalue
      rw [ha] at hb
      obtain rfl := Option.some.inj hb
      exact ⟨value, hperm.mem_iff.2 (Choice.setting_mem_tokens.2 hvalue), hread⟩
  have htext : ∀ o : Option String, (o.map Argument.text).bind Argument.text? = o := by
    intro o
    cases o <;> rfl
  have hnumber : ∀ o : Option UInt32,
      (o.map fun n => Argument.number n.toNat).bind Argument.number? = o.map UInt32.toNat := by
    intro o
    cases o <;> rfl
  simp [Options.ofLevels, Choice.options, hgiven, hvalue, Choice.on, Choice.argument?, htext,
    hnumber]

/-! ## Requests as words -/

namespace Request

/-- The word of a request's command. -/
def word : Request → String
  | docs => "docs"
  | addAccount _ _ | removeAccount _ | listAccounts | importAccounts => "accounts"
  | resolveAddress _ => "address"
  | nodeStatus => "node"
  | transfer _ _ => "transfer"

/-- The word of its subcommand. -/
def subword? : Request → Option String
  | docs => none
  | addAccount _ _ => some "add"
  | removeAccount _ => some "remove"
  | listAccounts => some "list"
  | importAccounts => some "import"
  | resolveAddress _ => some "resolve"
  | nodeStatus => some "status"
  | transfer _ _ => none

/-- The words of its arguments. -/
def arguments : Request → List String
  | addAccount name address => [name, address]
  | removeAccount name => [name]
  | resolveAddress value => [value]
  | transfer recipient amount => [recipient, Text.Decimal.natString amount]
  | docs | listAccounts | importAccounts | nodeStatus => []

theorem word_ne_helpWord (r : Request) : r.word ≠ helpWord := by
  cases r <;> simp [word, helpWord]

/-- An amount, if there is one, fits 64 bits. -/
def InRange : Request → Prop
  | transfer _ amount => amount < UInt64.size
  | _ => True

/-- The words of a request with options at its three places. -/
def commandLine (r : Request) (before between after : List Token) : List String :=
  before.map Token.word ++ r.word :: (between.map Token.word ++
    (r.subword?.toList ++ (after.map Token.word ++ argumentWords r.arguments)))

end Request

/-! ## The commands of the program -/

/-- The options of every command of the program begin with those that all of them take. -/
theorem Command.takesOptions {c : Command} {more : List Opt}
    (hoptions : c.description.options = sharedOptions ++ more)
    (hchildren : ∀ d ∈ c.children, d.name.toList.head? ≠ some '-') : c.TakesOptions where
  switch := by
    intro s
    rw [hoptions]
    cases s <;> rfl
  setting := by
    intro s
    rw [hoptions]
    cases s <;> rfl
  children := hchildren

theorem takesOptions_program : program.TakesOptions :=
  Command.takesOptions rfl (by decide)

theorem takesOptions_leaf (name about : String) (arguments : List Positional) :
    (leaf name about arguments).TakesOptions :=
  Command.takesOptions (List.append_nil _).symm (by simp [leaf, Command.children])

theorem takesOptions_group {name about : String} {children : List Command}
    (hchildren : ∀ d ∈ children, d.name.toList.head? ≠ some '-') :
    (group name about children).TakesOptions := by
  refine Command.takesOptions (List.append_nil _).symm (List.forall_mem_append.2 ⟨hchildren, ?_⟩)
  exact List.forall_mem_singleton.2 (by decide)

variable {before between after ts : List Token} {values : List String} {as : List Argument}
  {request : Request} {c : Choice} {d e : Command} {word subword : String}

/-- What has been read is what was meant, wherever the levels keep the options. -/
theorem invocation_eq (levels : List Level) {words : List String}
    (hrequest : Request.of? words as = some request) (hperm : ts.Perm c.tokens)
    (hswitches : (levels ++ [{ Level.of after with arguments := as }]).flatMap Level.switches =
      ts.filterMap Token.switch?)
    (hsettings : (levels ++ [{ Level.of after with arguments := as }]).flatMap Level.settings =
      ts.filterMap Token.argument?) :
    Parsed.invocation none
        ⟨programName :: words, levels ++ [{ Level.of after with arguments := as }]⟩ =
      ⟨c.options, some request⟩ := by
  rw [Parsed.invocation, ofLevels_eq hperm hswitches hsettings]
  simp [hrequest]

/-- A command of one word is read with the options before and after it. -/
theorem parse_of_child (hchild : program.child? word = some d) (hword : word ≠ helpWord)
    (hd : d.TakesOptions) (hneeds : d.description.needsCommand = false)
    (hreads : Reads d.description.arguments values as)
    (hrequest : Request.of? [word] as = some request)
    (hperm : (before ++ after).Perm c.tokens) :
    parse none (before.map Token.word ++ word :: (after.map Token.word ++ argumentWords values)) =
      .ok ⟨c.options, some request⟩ := by
  have hplaceable := c.placeable_tokens.perm hperm
  have hlast := readWords_last hd hneeds hplaceable.append_right hreads [programName, word]
  rw [parse, readWords_enter takesOptions_program hplaceable.append_left hchild hword hlast,
    Except.map]
  congr 1
  apply invocation_eq [Level.of before] hrequest hperm
  · simp [Level.of]
  · simp [Level.of]

/-- A command of two words is read with the options at its three places. -/
theorem parse_of_grandchild (hchild : program.child? word = some d) (hword : word ≠ helpWord)
    (hgrandchild : d.child? subword = some e) (hsubword : subword ≠ helpWord)
    (hd : d.TakesOptions) (he : e.TakesOptions) (hneeds : e.description.needsCommand = false)
    (hreads : Reads e.description.arguments values as)
    (hrequest : Request.of? [word, subword] as = some request)
    (hperm : (before ++ between ++ after).Perm c.tokens) :
    parse none (before.map Token.word ++ word :: (between.map Token.word ++
        subword :: (after.map Token.word ++ argumentWords values))) =
      .ok ⟨c.options, some request⟩ := by
  have hplaceable := c.placeable_tokens.perm hperm
  have hbefore := hplaceable.append_left
  have hlast := readWords_last he hneeds hplaceable.append_right hreads
    ([programName, word] ++ [subword])
  have hinner := readWords_enter hd hbefore.append_right hgrandchild hsubword hlast
  rw [parse, readWords_enter takesOptions_program hbefore.append_left hchild hword hinner,
    Except.map]
  congr 1
  apply invocation_eq [Level.of before, Level.of between] hrequest hperm
  · simp [Level.of]
  · simp [Level.of]

/-- A command line is read as it was meant: whatever options are given, wherever their words
are placed, and whatever the arguments are, the request is the one that was written, and the
settings are those of the given options, with the defaults for the others. -/
theorem parse_commandLine (hrequest : request.InRange)
    (hplaced : (before ++ between ++ after).Perm c.tokens) :
    parse none (request.commandLine before between after) = .ok ⟨c.options, some request⟩ ∧
    ∀ config, Settings.of c.options config =
      { node := Endpoint.normalize (c.node.getD config.node.endpoint)
        verbose := c.verbose
        signer := c.signer
        dryRun := c.dryRun
        ledger := c.ledger
        timeout := (c.timeout.map UInt32.toNat).getD 20
        file := c.file
        pretty := !c.noPretty } := by
  refine ⟨?_, fun _ => rfl⟩
  have hword := request.word_ne_helpWord
  have hleft : (before ++ (between ++ after)).Perm c.tokens := by
    rwa [← List.append_assoc]
  -- With no second word, what is placed between stands after the command as well.
  have hjoined : ∀ values, between.map Token.word ++ ([] ++ (after.map Token.word ++ values)) =
      (between ++ after).map Token.word ++ values := by simp
  cases request with
  | docs =>
      rw [Request.commandLine, Request.subword?, Option.toList_none, hjoined]
      exact parse_of_child rfl hword (takesOptions_leaf _ _ _) rfl .nil rfl hleft
  | addAccount name address =>
      exact parse_of_grandchild rfl hword rfl (by decide) (takesOptions_group (by decide))
        (takesOptions_leaf _ _ _) rfl (.cons rfl (.cons rfl .nil)) rfl hplaced
  | removeAccount name =>
      exact parse_of_grandchild rfl hword rfl (by decide) (takesOptions_group (by decide))
        (takesOptions_leaf _ _ _) rfl (.cons rfl .nil) rfl hplaced
  | listAccounts =>
      exact parse_of_grandchild rfl hword rfl (by decide) (takesOptions_group (by decide))
        (takesOptions_leaf _ _ _) rfl .nil rfl hplaced
  | importAccounts =>
      exact parse_of_grandchild rfl hword rfl (by decide) (takesOptions_group (by decide))
        (takesOptions_leaf _ _ _) rfl .nil rfl hplaced
  | resolveAddress value =>
      exact parse_of_grandchild rfl hword rfl (by decide) (takesOptions_group (by decide))
        (takesOptions_leaf _ _ _) rfl (.cons rfl .nil) rfl hplaced
  | nodeStatus =>
      exact parse_of_grandchild rfl hword rfl (by decide) (takesOptions_group (by decide))
        (takesOptions_leaf _ _ _) rfl .nil rfl hplaced
  | transfer recipient amount =>
      have hamount : Kind.amount.read "<AMOUNT>" (Text.Decimal.natString amount) =
          .ok (.number amount) := by
        rw [Kind.read, readNatural_natString hrequest]
      rw [Request.commandLine, Request.subword?, Option.toList_none, hjoined]
      exact parse_of_child rfl hword (takesOptions_leaf _ _ _) rfl
        (.cons rfl (.cons hamount .nil)) rfl hleft

/-- Options with the values that are easiest to mistake. -/
def oddValues : Choice where
  verbose := true
  signer := some ""
  node := some "--node=x"
  timeout := some 0xFFFFFFFF
  file := some "="

/-- Two command lines with `oddValues` at all places: a transfer of the greatest amount, and
a look at an address that looks like an option. -/
theorem parse_commandLine_oddValues :
    parse none ["--signer=", "--verbose", "transfer", "--file==", "--timeout=4294967295",
        "--node=--node=x", "--", "", "18446744073709551615"] =
      .ok ⟨oddValues.options, some (.transfer "" 0xFFFFFFFFFFFFFFFF)⟩ ∧
    parse none ["--timeout=4294967295", "address", "--file==", "--verbose", "resolve",
        "--node=--node=x", "--signer=", "--", "--help"] =
      .ok ⟨oddValues.options, some (.resolveAddress "--help")⟩ := by
  have hamount : (Request.transfer "" 0xFFFFFFFFFFFFFFFF).InRange := by
    rw [Request.InRange]
    decide
  have haround : List.Perm
      ([Token.setting .signer "", .switch .verbose] ++ [] ++
        [.setting .file "=", .setting .timeout "4294967295", .setting .node "--node=x"])
      oddValues.tokens := by
    decide +kernel
  have hthrough : List.Perm
      ([Token.setting .timeout "4294967295"] ++ [.setting .file "=", .switch .verbose] ++
        [.setting .node "--node=x", .setting .signer ""])
      oddValues.tokens := by
    decide +kernel
  have hlooks : (Request.resolveAddress "--help").InRange := trivial
  exact ⟨(parse_commandLine hamount haround).1, (parse_commandLine hlooks hthrough).1⟩

end TronWallet.CommandLine
