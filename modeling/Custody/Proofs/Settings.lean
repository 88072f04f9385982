import Custody.Proofs.Node
import Custody.Proofs.Numeral

/-!
# The environment decides the settings

Each variable of the environment replaces one setting by its text, and leaves the others
alone. Only the capacity of the log is read: `IsCapacity` says which texts denote one, and
by `capacity?_eq` these are read as their number and all others are refused. A refused
text leaves the capacity as it was and is quoted in a warning, which comes after the one
about a settings file that cannot be opened. The main theorem is
`variables_decide_settings`.
-/

namespace Custody.Settings

-- Powers are those of the core library, whatever other instances are in scope.
attribute [local instance (2000)] instPowNat

/-- The text denotes a capacity: it has decimal digits and nothing else, and their number is below
`2 ^ 64`. -/
def IsCapacity (text : Bytes) : Prop :=
  text ≠ [] ∧ (∀ byte ∈ text, (decimalDigit? byte).isSome) ∧ decimalValue text < 2 ^ (64 : Nat)

instance : DecidablePred IsCapacity := fun _ => inferInstanceAs (Decidable (_ ∧ _))

/-- The capacity that a variable asks for, or the one at hand if it asks for none. -/
def capacityOr (current : Nat) : Option Bytes → Nat
  | some text => if IsCapacity text then decimalValue text else current
  | none => current

/-- What is logged when the settings are read: first that a settings file is missing, then the text
that was to be a capacity and is none. -/
def records (environment : Environment) : List Entry :=
  let missing := if environment.settingsFile.isSome then
      [.of .warn (utf8 "Config file missing. Using system defaults.")] else []
  let refused := match environment.logCapacity with
    | some text => if IsCapacity text then [] else
        [.of .warn (utf8 "Ignoring invalid PCASH_LOG_CAPACITY: " ++ text)]
    | none => []
  missing ++ refused

/-! ### Reading a capacity -/

section MapM

variable {α β : Type} {f : α → Option β} {l : List α}

/-- A function with a value for each element has the values for all of them. -/
theorem mapM_of_forall_isSome (h : ∀ a ∈ l, (f a).isSome) : l.mapM f = some (l.filterMap f) := by
  induction l with
  | nil => rfl
  | cons a rest ih =>
      obtain ⟨ha, hrest⟩ := List.forall_mem_cons.mp h
      obtain ⟨b, hb⟩ := Option.isSome_iff_exists.mp ha
      rw [List.mapM_cons, hb, ih hrest, List.filterMap_cons_some hb]
      rfl

theorem mapM_of_eq_none {a : α} (hmem : a ∈ l) (hnone : f a = none) : l.mapM f = none := by
  induction l with
  | nil => cases hmem
  | cons first rest ih =>
      rw [List.mapM_cons]
      rcases List.mem_cons.mp hmem with rfl | hrest
      · rw [hnone]
        rfl
      · rw [ih hrest]
        cases f first <;> rfl

end MapM

/-- The texts that denote a capacity are read as their number, and all others are refused. -/
theorem capacity?_eq (text : Bytes) :
    capacity? text = if IsCapacity text then some (decimalValue text) else none := by
  unfold capacity?
  by_cases hempty : text = []
  · subst hempty
    rfl
  rw [if_neg (by simpa using hempty)]
  by_cases hdigits : ∀ byte ∈ text, (decimalDigit? byte).isSome
  · rw [mapM_of_forall_isSome hdigits]
    show (if decimalValue text < 2 ^ (64 : Nat) then some (decimalValue text) else none) = _
    have hfits : IsCapacity text ↔ decimalValue text < 2 ^ (64 : Nat) :=
      ⟨fun h => h.2.2, fun h => ⟨hempty, hdigits, h⟩⟩
    simp only [hfits]
  · have hrefused : ¬ IsCapacity text := fun h => hdigits h.2.1
    obtain ⟨byte, hbyte⟩ := not_forall.mp hdigits
    obtain ⟨hmem, hnone⟩ := Classical.not_imp.mp hbyte
    rw [mapM_of_eq_none hmem (Option.not_isSome_iff_eq_none.mp hnone), if_neg hrefused]

/-- A capacity is read from its numeral behind any number of zeros. -/
theorem capacity?_eq_some_iff {text : Bytes} {n : Nat} :
    capacity? text = some n ↔
      n < 2 ^ (64 : Nat) ∧ ∃ zeros, text = List.replicate zeros 48 ++ decimal n := by
  rw [capacity?_eq, Option.ite_none_right_eq_some, Option.some.injEq, ← denotes_iff_zeros_append]
  unfold IsCapacity
  constructor
  · rintro ⟨⟨hne, hdigits, hfits⟩, rfl⟩
    exact ⟨hfits, hne, hdigits, rfl⟩
  · rintro ⟨hfits, hne, hdigits, rfl⟩
    exact ⟨⟨hne, hdigits, hfits⟩, rfl⟩

/-! ### Applying the variables -/

/-- A variable that asks for no capacity leaves the one at hand in place. -/
theorem logCapacity_override (settings : Settings) (environment : Environment) :
    (settings.override environment).logCapacity =
      capacityOr settings.logCapacity environment.logCapacity := by
  unfold override capacityOr
  cases environment.logCapacity with
  | none => rfl
  | some text =>
      show (capacity? text).getD settings.logCapacity =
        if IsCapacity text then decimalValue text else settings.logCapacity
      rw [capacity?_eq]
      split_ifs <;> rfl

theorem warnings_eq_records (environment : Environment) :
    warnings environment = records environment := by
  have hmissing : (environment.settingsFile.map fun _ => fileMissingEntry).toList =
      if environment.settingsFile.isSome then [fileMissingEntry] else [] := by
    cases environment.settingsFile <;> rfl
  have hrefused (text : Bytes) : ((some text).filter fun text => (capacity? text).isNone).toList =
      if IsCapacity text then [] else [text] := by
    rw [Option.filter_some, capacity?_eq]
    by_cases hcapacity : IsCapacity text
    · rw [if_pos hcapacity, if_pos hcapacity]
      rfl
    · rw [if_neg hcapacity, if_neg hcapacity]
      rfl
  rw [warnings, records, hmissing]
  congr 1
  cases environment.logCapacity with
  | none => rfl
  | some text =>
      rw [hrefused]
      dsimp only
      split_ifs <;> rfl

/-- All records are warnings. -/
theorem exists_eq_warn_of_mem_records {environment : Environment} {entry : Entry}
    (h : entry ∈ records environment) : ∃ message, entry = .of .warn message := by
  unfold records at h
  rcases List.mem_append.mp h with hmissing | hrefused
  · split_ifs at hmissing
    · exact ⟨_, List.mem_singleton.mp hmissing⟩
    · cases hmissing
  · cases hcapacity : environment.logCapacity with
    | none =>
        rw [hcapacity] at hrefused
        cases hrefused
    | some text =>
        rw [hcapacity] at hrefused
        dsimp only at hrefused
        split_ifs at hrefused
        · cases hrefused
        · exact ⟨_, List.mem_singleton.mp hrefused⟩

theorem length_records_le (environment : Environment) : (records environment).length ≤ 2 := by
  unfold records
  rw [List.length_append]
  cases environment.logCapacity with
  | none => split_ifs <;> simp
  | some text =>
      dsimp only
      split_ifs <;> simp

/-- A new log keeps the records and nothing else, and shows them if its console is on. -/
theorem recordAll_warnings (console : Bool) (environment : Environment) :
    ({ console } : Log).recordAll (warnings environment) =
      { console
        kept := records environment
        shown := if console then records environment else [] } := by
  have haccepts : ∀ entry ∈ records environment, ({ console } : Log).accepts entry := by
    intro entry hentry
    obtain ⟨message, rfl⟩ := exists_eq_warn_of_mem_records hentry
    rw [Log.accepts, Entry.severity_of]
    rfl
  have hroom : ([] : List Entry).length + (records environment).length ≤ 200 := by
    have hlength := length_records_le environment
    rw [List.length_nil]
    omega
  rw [warnings_eq_records, Log.recordAll_of_room haccepts hroom]
  rfl

/-- Where the settings file is not named or cannot be opened, the chain, the genesis file and the
level are the texts of their variables, or the defaults where these are not set, and there are no
sinks. The capacity is the number that its variable denotes, if the text is one of digits for a
number below `2 ^ 64`, and else the default of 200; the numeral of such a number is read behind any
number of zeros. A new log holds one warning if a settings file is named and one that quotes the
refused capacity, in this order, and nothing else. A run of the node goes on with these settings and
this log. -/
theorem variables_decide_settings (scheme : SigningScheme) (library : Json.Library)
    (surroundings : Node.Surroundings)
    (hsettings : ∀ file ∈ surroundings.environment.settingsFile,
      surroundings.document? file = none) :
    let environment := surroundings.environment
    let settings := ofEnvironment environment
    settings.chain = environment.chain.getD (utf8 "local") ∧
    settings.genesisFile = environment.genesisFile.getD [] ∧
    settings.logLevel = environment.logLevel.getD (utf8 "INFO") ∧
    settings.sinks = [] ∧
    settings.logCapacity = capacityOr 200 environment.logCapacity ∧
    (∀ text n, IsCapacity text ∧ decimalValue text = n ↔
      n < 2 ^ (64 : Nat) ∧ ∃ zeros, text = List.replicate zeros 48 ++ decimal n) ∧
    (∀ console, ({ console } : Log).recordAll (warnings environment) =
      { console
        kept := records environment
        shown := if console then records environment else [] }) ∧
    ∀ path, Node.run scheme library surroundings path =
      Node.runWith scheme library surroundings settings
        ((({ kept := records environment, shown := records environment } : Log).setLevel
          settings.logLevel).setCapacity settings.logCapacity) path := by
  intro environment settings
  refine ⟨rfl, rfl, rfl, rfl, logCapacity_override {} environment, ?_,
    (recordAll_warnings · environment), ?_⟩
  · intro text n
    rw [← capacity?_eq_some_iff, capacity?_eq, Option.ite_none_right_eq_some, Option.some.injEq]
  · intro path
    have hlog := recordAll_warnings true environment
    rw [Node.run_of_no_settingsFile hsettings, hlog]
    rfl

end Custody.Settings

namespace Custody.Sample

/-- A settings file that cannot be opened, an empty chain and a capacity that is one too large. -/
def overloaded : Node.Surroundings where
  environment :=
    { settingsFile := some (utf8 "node.json"), chain := some [],
      logCapacity := some (utf8 "18446744073709551616") }

/-- A level that is unknown and the largest capacity, with zeros in front. -/
def padded : Node.Surroundings where
  environment :=
    { logLevel := some (utf8 "LOUD"), logCapacity := some (utf8 "00018446744073709551615") }

end Custody.Sample

namespace Custody.Settings

/-- The capacity that is one too large is refused with a warning after the one about the settings
file, and the largest one is read without any. -/
theorem variables_decide_settings_boundary :
    let overloaded := ofEnvironment Sample.overloaded.environment
    let padded := ofEnvironment Sample.padded.environment
    (∀ file ∈ Sample.overloaded.environment.settingsFile,
      Sample.overloaded.document? file = none) ∧
    overloaded.chain = [] ∧ overloaded.logLevel = utf8 "INFO" ∧ overloaded.logCapacity = 200 ∧
    (({ console := false } : Log).recordAll (warnings Sample.overloaded.environment)).kept =
      [.of .warn (utf8 "Config file missing. Using system defaults."),
        .of .warn (utf8 "Ignoring invalid PCASH_LOG_CAPACITY: 18446744073709551616")] ∧
    padded.chain = utf8 "local" ∧ padded.logLevel = utf8 "LOUD" ∧
    padded.logCapacity = 2 ^ (64 : Nat) - 1 ∧
    (({ console := false } : Log).recordAll (warnings Sample.padded.environment)).kept = [] := by
  intro overloaded padded
  have hmissing : ∀ file ∈ Sample.overloaded.environment.settingsFile,
      Sample.overloaded.document? file = none := by decide
  obtain ⟨hchain, _, hlevel, _, hcapacity, _, hlog, _⟩ :=
    variables_decide_settings Ed25519.native.scheme Json.Text.library Sample.overloaded hmissing
  obtain ⟨hchain', _, hlevel', _, hcapacity', _, hlog', _⟩ :=
    variables_decide_settings Ed25519.native.scheme Json.Text.library Sample.padded (by decide)
  exact ⟨hmissing, hchain, hlevel, hcapacity.trans (by decide +kernel),
    (congrArg Log.kept (hlog false)).trans (by decide +kernel), hchain', hlevel',
    hcapacity'.trans (by decide +kernel),
    (congrArg Log.kept (hlog' false)).trans (by decide +kernel)⟩

end Custody.Settings
