import Custody.Json.Text
import Custody.Node
import Custody.Proofs.Genesis
import Custody.Proofs.Host
import Custody.Proofs.Log

/-!
# How a run of the node ends

`Node.verdict?` says what keeps a run from going on, if anything does: first the
chain, then the genesis file, then the command file. The main theorem,
`run_reports_verdict`, says that a run over blank lines exits with status zero
exactly when there is no such cause, and otherwise with status one and one fatal
entry, which names the cause and comes last. No setting of the log suppresses it,
because `Log.Calm` holds up to that entry and `Log.accepts_fatal` holds of it.
Nothing is written to the standard output in either case.
-/

namespace Custody

/-! ### Fatal entries -/

theorem Entry.level_of_ne_fatal {severity : Severity} (h : severity ≠ .fatal) (message : Bytes) :
    (Entry.of severity message).level ≠ Severity.fatal.name := by
  intro hname
  apply h
  have hsame : severity.name = Severity.fatal.name := hname
  rw [← Severity.ofName_name severity, hsame, Severity.ofName_name]

namespace Log

/-- The console is on and has shown no fatal entry. -/
structure Calm (log : Log) : Prop where
  console : log.console = true
  shown : ∀ entry ∈ log.shown, entry.level ≠ Severity.fatal.name

namespace Calm

variable {log : Log}

theorem initial : ({} : Log).Calm := ⟨rfl, List.forall_mem_nil _⟩

theorem setLevel (h : log.Calm) (level : Bytes) : (log.setLevel level).Calm := ⟨h.console, h.shown⟩

theorem setCapacity (h : log.Calm) (capacity : Nat) : (log.setCapacity capacity).Calm :=
  ⟨h.console, h.shown⟩

/-- An entry that is not fatal leaves the console calm, whether it is shown or dropped. -/
theorem record (h : log.Calm) {entry : Entry} (hentry : entry.level ≠ Severity.fatal.name) :
    (log.record entry).Calm := by
  refine ⟨by rw [console_record, h.console], ?_⟩
  by_cases haccepts : log.accepts entry
  · rw [record_of_accepts haccepts, h.console]
    intro other hother
    rcases List.mem_append.mp hother with hold | hnew
    · exact h.shown other hold
    · rw [List.mem_singleton.mp hnew]
      exact hentry
  · rw [record_of_not_accepts haccepts]
    exact h.shown

theorem recordAll (h : log.Calm) {entries : List Entry}
    (hentries : ∀ entry ∈ entries, entry.level ≠ Severity.fatal.name) :
    (log.recordAll entries).Calm := by
  induction entries generalizing log with
  | nil => exact h
  | cons entry rest ih =>
      rw [List.forall_mem_cons] at hentries
      exact ih (h.record hentries.1) hentries.2

/-- A fatal entry is shown after the others, whatever the threshold and the capacity are. -/
theorem shown_record_fatal (h : log.Calm) (message : Bytes) :
    (log.record (.of .fatal message)).shown = log.shown ++ [.of .fatal message] := by
  rw [record_of_accepts (accepts_fatal log message), h.console]
  rfl

end Calm

end Log

/-! ### Blank lines -/

namespace Command

/-- The text holds nothing but tabs, line feeds, carriage returns and spaces. -/
def OnlyBlanks (text : Bytes) : Prop := ∀ byte ∈ text, byte ∈ ([9, 10, 13, 32] : Bytes)

instance (text : Bytes) : Decidable (OnlyBlanks text) := List.decidableBAll _ text

/-- The lines of a text are made of its bytes, less the line feeds. -/
theorem mem_of_mem_lines {text line : Bytes} {byte : UInt8} (hline : line ∈ lines text)
    (hbyte : byte ∈ line) : byte ∈ text ∧ byte ≠ 10 := by
  induction text generalizing line with
  | nil => cases hline
  | cons first rest ih =>
      have hrest : ∀ other ∈ lines rest, byte ∈ other → byte ∈ first :: rest ∧ byte ≠ 10 := by
        intro other hother hbyte
        obtain ⟨hmem, hne⟩ := ih hother hbyte
        exact ⟨List.mem_cons_of_mem _ hmem, hne⟩
      rw [lines] at hline
      split_ifs at hline with hfeed
      · rcases List.mem_cons.mp hline with rfl | hlater
        · cases hbyte
        · exact hrest line hlater hbyte
      · -- The first byte joins the first line of the rest.
        have hfirst : byte = first → byte ∈ first :: rest ∧ byte ≠ 10 := by
          rintro rfl
          exact ⟨List.mem_cons_self, hfeed⟩
        cases hlines : lines rest with
        | nil =>
            rw [hlines, List.mem_singleton] at hline
            rw [hline] at hbyte
            exact hfirst (List.mem_singleton.mp hbyte)
        | cons other later =>
            rw [hlines] at hline hrest
            rcases List.mem_cons.mp hline with rfl | hlater
            · rcases List.mem_cons.mp hbyte with hsame | hother
              · exact hfirst hsame
              · exact hrest other List.mem_cons_self hother
            · exact hrest line (List.mem_cons_of_mem _ hlater) hbyte

/-- A text of blank lines has only blank lines. -/
theorem isBlank_of_onlyBlanks {text line : Bytes} (h : OnlyBlanks text)
    (hline : line ∈ lines text) : isBlank line := by
  refine List.all_eq_true.mpr fun byte hbyte => ?_
  obtain ⟨hmem, hne⟩ := mem_of_mem_lines hline hbyte
  have hcases := h byte hmem
  simp only [List.mem_cons, List.not_mem_nil, or_false] at hcases
  rcases hcases with rfl | rfl | rfl | rfl
  · rfl
  · exact absurd rfl hne
  · rfl
  · rfl

end Command

/-- Nothing is answered to blank lines, and nothing is done. -/
theorem Host.Work.run_forM_answer (library : Json.Library) (scheme : Scheme) {lines : List Bytes}
    (h : ∀ line ∈ lines, Command.isBlank line) (host : Host) :
    (lines.forM (answer library scheme)).run host = (host, .ok ()) := by
  induction lines with
  | nil => rfl
  | cons line rest ih =>
      rw [List.forall_mem_cons] at h
      rw [Custody.Work.run_forM_cons, run_answer_of_isBlank library scheme h.1]
      exact ih h.2

theorem Host.Work.run_answerAll_of_onlyBlanks (library : Json.Library) (scheme : Scheme)
    {text : Bytes} (h : Command.OnlyBlanks text) (host : Host) :
    ∃ rejections, (answerAll library scheme text).run host = (host, .ok rejections) := by
  have hlines := run_forM_answer library scheme (fun line => Command.isBlank_of_onlyBlanks h) host
  simp only [answerAll, Custody.Work.run_bind, Custody.Work.run_get, hlines]
  exact ⟨_, rfl⟩

namespace Node

/-- What keeps a run from going on, of a custom chain whose genesis file cannot be opened or of
another chain. The chain is judged first, then the genesis file and last the command file. -/
def verdict? (surroundings : Surroundings) (path : Bytes) : Option Halt :=
  let chain := surroundings.environment.chain.getD (utf8 "local")
  let file := surroundings.environment.genesisFile.getD []
  if chain ∉ [[], utf8 "dev", utf8 "local", utf8 "custom"] then some (.unknownChain chain)
  else if chain = utf8 "custom" then
    some (if file = [] then .noGenesisFile else .genesisFile (.missing file))
  else if path ≠ [] ∧ surroundings.document? path = none then some (.commandFileMissing path)
  else none

section Verdict

variable {surroundings : Surroundings} {path : Bytes}

theorem verdict?_of_unknown (h : surroundings.environment.chain.getD (utf8 "local") ∉
      [[], utf8 "dev", utf8 "local", utf8 "custom"]) :
    verdict? surroundings path =
      some (.unknownChain (surroundings.environment.chain.getD (utf8 "local"))) :=
  if_pos h

theorem verdict?_of_custom
    (h : surroundings.environment.chain.getD (utf8 "local") = utf8 "custom") :
    verdict? surroundings path =
      some (if surroundings.environment.genesisFile.getD [] = [] then .noGenesisFile
        else .genesisFile (.missing (surroundings.environment.genesisFile.getD []))) := by
  refine (if_neg ?_).trans (if_pos h)
  rw [h]
  decide

theorem verdict?_of_endowed
    (hknown : surroundings.environment.chain.getD (utf8 "local") ∈
      [[], utf8 "dev", utf8 "local", utf8 "custom"])
    (hcustom : surroundings.environment.chain.getD (utf8 "local") ≠ utf8 "custom") :
    verdict? surroundings path =
      if path ≠ [] ∧ surroundings.document? path = none then some (.commandFileMissing path)
      else none :=
  (if_neg (not_not.mpr hknown)).trans (if_neg hcustom)

/-- The chains with endowments are the known ones other than the custom one. -/
theorem mem_endowed_chains_iff (chain : Option Bytes) :
    chain ∈ [none, some [], some (utf8 "dev"), some (utf8 "local")] ↔
      chain.getD (utf8 "local") ∈ [[], utf8 "dev", utf8 "local", utf8 "custom"] ∧
        chain.getD (utf8 "local") ≠ utf8 "custom" := by
  cases chain with
  | none => decide
  | some chain =>
      simp only [List.mem_cons, List.not_mem_nil, or_false, reduceCtorEq, false_or,
        Option.some.injEq, Option.getD_some]
      constructor
      · rintro (rfl | rfl | rfl) <;> decide
      · rintro ⟨rfl | rfl | rfl | rfl, hcustom⟩
        · exact .inl rfl
        · exact .inr (.inl rfl)
        · exact .inr (.inr rfl)
        · exact absurd rfl hcustom

/-- Nothing keeps a run from going on exactly when its chain has endowments and its commands can
be read. -/
theorem verdict?_eq_none_iff :
    verdict? surroundings path = none ↔
      surroundings.environment.chain ∈ [none, some [], some (utf8 "dev"), some (utf8 "local")] ∧
        (path = [] ∨ (surroundings.document? path).isSome) := by
  have hdocument : path = [] ∨ (surroundings.document? path).isSome ↔
      ¬ (path ≠ [] ∧ surroundings.document? path = none) := by
    rw [not_and_or, not_not, Option.isSome_iff_ne_none]
  rw [mem_endowed_chains_iff, hdocument]
  by_cases hunknown : surroundings.environment.chain.getD (utf8 "local") ∉
      [[], utf8 "dev", utf8 "local", utf8 "custom"]
  · rw [verdict?_of_unknown hunknown]
    exact iff_of_false (Option.some_ne_none _) fun h => hunknown h.1.1
  by_cases hcustom : surroundings.environment.chain.getD (utf8 "local") = utf8 "custom"
  · rw [verdict?_of_custom hcustom]
    exact iff_of_false (Option.some_ne_none _) fun h => h.1.2 hcustom
  · have hknown := not_not.mp hunknown
    rw [verdict?_of_endowed hknown hcustom]
    by_cases hmissing : path ≠ [] ∧ surroundings.document? path = none
    · rw [if_pos hmissing]
      exact iff_of_false (Option.some_ne_none _) fun h => h.2 hmissing
    · rw [if_neg hmissing]
      exact iff_of_true rfl ⟨⟨hknown, hcustom⟩, hmissing⟩

end Verdict

/-- The run ended for this cause: it wrote nothing to the standard output, and its only fatal entry
names the cause and is the last one shown. -/
structure HaltedFor (report : Report) (cause : Halt) : Prop where
  ending : report.ending = .halted
  output : report.output = []
  shown : ∃ before, report.log.shown = before ++ [.of .fatal cause.message] ∧
    ∀ entry ∈ before, entry.level ≠ Severity.fatal.name

/-- The run did its work: it wrote nothing to the standard output and showed no fatal entry. -/
structure Finished (report : Report) : Prop where
  ending : report.ending = .completed
  output : report.output = []
  shown : ∀ entry ∈ report.log.shown, entry.level ≠ Severity.fatal.name

variable {scheme : SigningScheme} {library : Json.Library} {surroundings : Surroundings}
  {settings : Settings} {host : Host} {log : Log} {path : Bytes}

/-- The entry before the fatal one is not fatal. -/
theorem Halt.level_causeEntry? {cause : Halt} {entry : Entry} (h : cause.causeEntry? = some entry) :
    entry.level ≠ Severity.fatal.name := by
  cases cause with
  | settingsFile error =>
      cases error with
      | corrupt =>
          cases h
          exact Entry.level_of_ne_fatal (by decide) _
      | unusable => cases h
  | genesisFile error =>
      cases error with
      | missing | corrupt =>
          cases h
          exact Entry.level_of_ne_fatal (by decide) _
      | unusable => cases h
  | unknownChain | noGenesisFile | commandFileMissing | failed => cases h

/-! ### Hosts on the way -/

/-- The host has written nothing to the standard output, and its console has shown no fatal
entry. -/
structure Quiet (host : Host) : Prop where
  calm : host.desk.log.Calm
  output : host.places.output = []

theorem quiet_host (h : log.Calm) : Quiet (surroundings.host log) := ⟨h, rfl⟩

theorem haltedFor_halt (h : Quiet host) (cause : Halt) : HaltedFor (halt host cause) cause := by
  have hbefore : (host.desk.log.recordAll cause.causeEntry?.toList).Calm := by
    apply h.calm.recordAll
    intro entry hentry
    exact Halt.level_causeEntry? (Option.mem_toList.mp hentry)
  refine ⟨rfl, h.output, (host.desk.log.recordAll cause.causeEntry?.toList).shown, ?_,
    hbefore.shown⟩
  rw [← hbefore.shown_record_fatal, halt, Halt.entries, Log.recordAll, List.foldl_append]
  rfl

theorem finished_complete (h : Quiet host) : Finished (complete host) :=
  ⟨rfl, h.output, h.calm.shown⟩

theorem Quiet.ready (h : Quiet host) (hsinks : settings.sinks = []) :
    Quiet (ready scheme settings host) := by
  have hlog : (host.desk.log.recordAll
      [Registry.openedEntry, activeEntry scheme settings host.desk.ledger]).Calm := by
    apply h.calm.recordAll
    simp only [List.forall_mem_cons]
    exact ⟨Entry.level_of_ne_fatal (by decide) _, Entry.level_of_ne_fatal (by decide) _,
      List.forall_mem_nil _⟩
  unfold Node.ready
  rw [hsinks]
  exact ⟨hlog, h.output⟩

/-! ### Up to the commands -/

theorem genesis_of_unknown
    (h : settings.chain ∉ [[], utf8 "dev", utf8 "local", utf8 "custom"]) :
    genesis scheme library surroundings settings = .error (.unknownChain settings.chain) := by
  simp only [List.mem_cons, List.not_mem_nil, or_false, not_or] at h
  obtain ⟨hempty, hdev, hlocal, hcustom⟩ := h
  simp [genesis, Preset.ofName?, hempty, hdev, hlocal, hcustom]

theorem genesis_of_custom (hcustom : settings.chain = utf8 "custom")
    (hmissing : settings.genesisFile ≠ [] → surroundings.document? settings.genesisFile = none) :
    genesis scheme library surroundings settings = .error
      (if settings.genesisFile = [] then .noGenesisFile
      else .genesisFile (.missing settings.genesisFile)) := by
  have hpreset : Preset.ofName? settings.chain = some .custom := by
    rw [hcustom]
    decide
  simp only [genesis, hpreset]
  split_ifs with hunnamed
  · rfl
  · rw [hmissing hunnamed]
    rfl

/-- The other chains that are known have endowments. -/
theorem ofName?_of_known (hknown : settings.chain ∈ [[], utf8 "dev", utf8 "local", utf8 "custom"])
    (hcustom : settings.chain ≠ utf8 "custom") :
    ∃ preset, Preset.ofName? settings.chain = some preset ∧ preset ≠ .custom := by
  simp only [List.mem_cons, List.not_mem_nil, or_false, hcustom] at hknown
  rcases hknown with h | h | h
  · exact ⟨.localTestnet, by rw [h]; decide, by decide⟩
  · exact ⟨.development, by rw [h]; decide, by decide⟩
  · exact ⟨.localTestnet, by rw [h]; decide, by decide⟩

theorem nodup_endowments (preset : Preset) : (preset.endowments.map Prod.snd).Nodup := by
  cases preset <;> decide

theorem genesis_of_preset (keyring : Keyring scheme) {preset : Preset}
    (hpreset : Preset.ofName? settings.chain = some preset) (hcustom : preset ≠ .custom) :
    genesis scheme library surroundings settings =
      .ok (preset.endowments.map (Genesis.endow keyring)) := by
  rw [genesis, hpreset]
  cases preset with
  | custom => exact absurd rfl hcustom
  | development | localTestnet =>
      dsimp only
      rw [Genesis.ofEndowments_eq_map_endow keyring]
      rfl

/-- The endowments of a preset are seeded on a new ledger, and one entry tells so. -/
theorem run_seed_of_preset (surroundings : Surroundings) (keyring : Keyring scheme)
    (hlog : log.Calm) (preset : Preset) :
    ∃ host, (Host.Work.atDesk (.seed scheme.toScheme
        (preset.endowments.map (Genesis.endow keyring)))).run (surroundings.host log) =
      (host, .ok ()) ∧ Quiet host := by
  have hseed := Genesis.seed_map_endow keyring (nodup_endowments preset)
  have hledger : (surroundings.host log).desk.ledger = .empty := rfl
  rw [Host.Work.run_atDesk, Desk.Work.run_seed, hledger, hseed]
  exact ⟨_, rfl, hlog.record (Entry.level_of_ne_fatal (by decide) _), rfl⟩

/-! ### The commands -/

/-- The text of the commands is there unless the path names something that cannot be opened, and
has only blank lines if the input and the command file do. -/
theorem commandText_cases (hinput : path = [] → Command.OnlyBlanks surroundings.input)
    (hfile : path ≠ [] → ∀ document, surroundings.document? path = some document →
      Command.OnlyBlanks document.content) :
    if path ≠ [] ∧ surroundings.document? path = none then
      commandText surroundings path = .error (.commandFileMissing path)
    else ∃ text, commandText surroundings path = .ok text ∧ Command.OnlyBlanks text := by
  unfold commandText
  by_cases hpath : path = []
  · simp only [hpath, ne_eq, not_true_eq_false, false_and, if_false, if_true]
    exact ⟨_, rfl, hinput hpath⟩
  · cases hdocument : surroundings.document? path with
    | none => simp [hpath]
    | some document => simpa [hpath] using hfile hpath document hdocument

/-- A host that is to answer blank lines is finished, or halts because its command file cannot be
opened. -/
theorem answer_verdict (scheme : SigningScheme) (library : Json.Library) (h : Quiet host)
    (hinput : path = [] → Command.OnlyBlanks surroundings.input)
    (hfile : path ≠ [] → ∀ document, surroundings.document? path = some document →
      Command.OnlyBlanks document.content) :
    let report := answer scheme library surroundings host path
    if path ≠ [] ∧ surroundings.document? path = none then
      HaltedFor report (.commandFileMissing path)
    else Finished report := by
  intro report
  have htext := commandText_cases hinput hfile
  split_ifs at htext ⊢ with hmissing
  · have hreport : report = halt host (.commandFileMissing path) := by
      simp only [report, answer, htext]
    rw [hreport]
    exact haltedFor_halt h _
  · obtain ⟨text, htext, hblank⟩ := htext
    obtain ⟨rejections, hrun⟩ :=
      Host.Work.run_answerAll_of_onlyBlanks library scheme.toScheme hblank host
    have hreport :
        report = complete { host with desk := host.desk.record (finishedEntry host) } := by
      simp only [report, answer, htext, hrun]
    rw [hreport]
    exact finished_complete
      ⟨h.calm.record (Entry.level_of_ne_fatal (by decide) _), h.output⟩

/-! ### The whole run -/

theorem runWith_of_genesis_error {cause : Halt} (hlog : log.Calm)
    (hgenesis : genesis scheme library surroundings settings = .error cause) :
    HaltedFor (runWith scheme library surroundings settings log path) cause := by
  rw [runWith, hgenesis]
  exact haltedFor_halt (quiet_host hlog) cause

theorem runWith_of_preset (keyring : Keyring scheme) (hlog : log.Calm) {preset : Preset}
    (hpreset : Preset.ofName? settings.chain = some preset) (hcustom : preset ≠ .custom) :
    ∃ host, Quiet host ∧ runWith scheme library surroundings settings log path =
      answer scheme library surroundings (ready scheme settings host) path := by
  obtain ⟨host, hseed, hquiet⟩ := run_seed_of_preset surroundings keyring hlog preset
  refine ⟨host, hquiet, ?_⟩
  simp only [runWith, genesis_of_preset keyring hpreset hcustom, hseed]

/-- The warnings about the settings are not fatal. -/
theorem calm_warnings (environment : Environment) :
    (({} : Log).recordAll (Settings.warnings environment)).Calm := by
  apply Log.Calm.initial.recordAll
  intro entry hentry
  rcases List.mem_append.mp hentry with hmissing | hcapacity
  · obtain ⟨_, _, rfl⟩ := Option.map_eq_some_iff.mp (Option.mem_toList.mp hmissing)
    exact Entry.level_of_ne_fatal (by decide) _
  · obtain ⟨_, _, rfl⟩ := List.mem_map.mp hcapacity
    exact Entry.level_of_ne_fatal (by decide) _

/-- Nothing opens at the genesis file of a custom chain, if one is named. -/
theorem document?_genesisFile
    (hgenesis : surroundings.environment.chain = some (utf8 "custom") →
      ∀ file ∈ surroundings.environment.genesisFile, surroundings.document? file = none)
    (hcustom : surroundings.environment.chain.getD (utf8 "local") = utf8 "custom")
    (hnamed : surroundings.environment.genesisFile.getD [] ≠ []) :
    surroundings.document? (surroundings.environment.genesisFile.getD []) = none := by
  have hchain : surroundings.environment.chain = some (utf8 "custom") := by
    rcases Option.getD_eq_iff.mp hcustom with hnamed | ⟨_, hlocal⟩
    · exact hnamed
    · exact absurd hlocal (by decide)
  cases hfile : surroundings.environment.genesisFile with
  | none => exact absurd (by rw [hfile]; rfl) hnamed
  | some file => exact hgenesis hchain file hfile

/-- A run whose settings file cannot be opened, if it names one, goes by the environment. -/
theorem run_of_no_settingsFile
    (hsettings : ∀ file ∈ surroundings.environment.settingsFile,
      surroundings.document? file = none) :
    run scheme library surroundings path =
      runWith scheme library surroundings (.ofEnvironment surroundings.environment)
        (((({} : Log).recordAll (Settings.warnings surroundings.environment)).setLevel
          (Settings.ofEnvironment surroundings.environment).logLevel).setCapacity
            (Settings.ofEnvironment surroundings.environment).logCapacity) path := by
  have hnone : surroundings.environment.settingsFile.bind surroundings.document? = none :=
    Option.bind_eq_none_iff.mpr hsettings
  simp only [run, readSettings, hnone]

section Run

variable (library) (keyring : Keyring scheme)
  (hsettings : ∀ file ∈ surroundings.environment.settingsFile, surroundings.document? file = none)
  (hgenesis : surroundings.environment.chain = some (utf8 "custom") →
    ∀ file ∈ surroundings.environment.genesisFile, surroundings.document? file = none)
  (hinput : path = [] → Command.OnlyBlanks surroundings.input)
  (hfile : path ≠ [] → ∀ document, surroundings.document? path = some document →
    Command.OnlyBlanks document.content)
include keyring hsettings hgenesis hinput hfile

/-- A run over blank lines does what the verdict says. -/
theorem run_verdict :
    match verdict? surroundings path with
    | none => Finished (run scheme library surroundings path)
    | some cause => HaltedFor (run scheme library surroundings path) cause := by
  let settings := Settings.ofEnvironment surroundings.environment
  let log := ((({} : Log).recordAll (Settings.warnings surroundings.environment)).setLevel
    settings.logLevel).setCapacity settings.logCapacity
  have hlog : log.Calm := ((calm_warnings _).setLevel _).setCapacity _
  have hrun : run scheme library surroundings path =
      runWith scheme library surroundings settings log path :=
    run_of_no_settingsFile hsettings
  rw [hrun]
  by_cases hunknown : settings.chain ∉ [[], utf8 "dev", utf8 "local", utf8 "custom"]
  · rw [verdict?_of_unknown hunknown]
    exact runWith_of_genesis_error hlog (genesis_of_unknown hunknown)
  by_cases hcustom : settings.chain = utf8 "custom"
  · have hmissing := document?_genesisFile hgenesis hcustom
    rw [verdict?_of_custom hcustom]
    exact runWith_of_genesis_error hlog (genesis_of_custom hcustom hmissing)
  · have hknown := not_not.mp hunknown
    obtain ⟨preset, hpreset, hendowed⟩ := ofName?_of_known hknown hcustom
    obtain ⟨host, hquiet, hanswer⟩ : ∃ host, Quiet host ∧
        runWith scheme library surroundings settings log path =
          answer scheme library surroundings (ready scheme settings host) path :=
      runWith_of_preset keyring hlog hpreset hendowed
    have hready : Quiet (ready scheme settings host) := hquiet.ready rfl
    have hreport := answer_verdict scheme library hready hinput hfile
    rw [verdict?_of_endowed hknown hcustom, hanswer]
    split_ifs at hreport ⊢ <;> exact hreport

end Run

/-- The usage goes to the standard error only where the arguments name no work. -/
theorem errors_of_ne_misused (report : Report) (h : report.ending ≠ .misused) (stamp : Bytes) :
    report.errors stamp = report.log.shown.flatMap fun entry =>
      stamp ++ (utf8 "[" ++ entry.level ++ utf8 "] " ++ entry.message ++ utf8 "\n") := by
  rw [Report.errors, if_neg h, List.append_nil]
  rfl

theorem invoke_run (path? : Option Bytes) :
    invoke scheme library surroundings (utf8 "run" :: path?.toList) =
      run scheme library surroundings (path?.getD []) := by
  cases path? with
  | none => simp [invoke]
  | some path => simp [invoke]

/-- Under Ed25519 over a backend that verifies what it signed, a run over blank lines, of a settings
file that cannot be opened and of a genesis file that cannot be opened if the chain is custom,
writes nothing to the standard output. Its status is zero exactly when the chain is known and the
command file, if one is named, can be opened, and one otherwise. With status one, what is written to
the standard error is some entries that are not fatal and then a fatal one, which names what the
verdict finds. With status zero, it is entries that are not fatal. Each entry is a line of its level
in brackets and its message behind a stamp. -/
theorem run_reports_verdict (backend : Ed25519.Backend) (hbackend : backend.AcceptsOwn)
    (library : Json.Library) (surroundings : Surroundings) (path? : Option Bytes)
    (hsettings : ∀ file ∈ surroundings.environment.settingsFile,
      surroundings.document? file = none)
    (hgenesis : surroundings.environment.chain = some (utf8 "custom") →
      ∀ file ∈ surroundings.environment.genesisFile, surroundings.document? file = none)
    (hinput : path?.getD [] = [] → Command.OnlyBlanks surroundings.input)
    (hfile : ∀ path ∈ path?, path ≠ [] → ∀ document, surroundings.document? path = some document →
      Command.OnlyBlanks document.content) :
    let report := invoke backend.scheme library surroundings (utf8 "run" :: path?.toList)
    let written (stamp : Bytes) (entries : List Entry) : Bytes := entries.flatMap fun entry =>
      stamp ++ (utf8 "[" ++ entry.level ++ utf8 "] " ++ entry.message ++ utf8 "\n")
    report.output = [] ∧
      (report.ending.status = 0 ↔
        surroundings.environment.chain ∈ [none, some [], some (utf8 "dev"), some (utf8 "local")] ∧
          (path? = none ∨ path? = some [] ∨
            ∃ path ∈ path?, (surroundings.document? path).isSome)) ∧
      (report.ending.status ≠ 0 → report.ending.status = 1) ∧
      (report.ending.status = 1 → ∃ cause before,
        verdict? surroundings (path?.getD []) = some cause ∧
          (∀ entry ∈ before, entry.level ≠ utf8 "FATAL") ∧
          ∀ stamp, report.errors stamp =
            written stamp (before ++ [⟨utf8 "FATAL", cause.message⟩])) ∧
      (report.ending.status = 0 → ∃ shown,
        (∀ entry ∈ shown, entry.level ≠ utf8 "FATAL") ∧
          ∀ stamp, report.errors stamp = written stamp shown) := by
  intro report written
  obtain ⟨keyring⟩ := hbackend.keyring
  have hblank : path?.getD [] ≠ [] → ∀ document,
      surroundings.document? (path?.getD []) = some document →
      Command.OnlyBlanks document.content := by
    cases path? with
    | none =>
        intro hnamed
        exact absurd rfl hnamed
    | some path => exact hfile path rfl
  have hcommands : path?.getD [] = [] ∨ (surroundings.document? (path?.getD [])).isSome ↔
      path? = none ∨ path? = some [] ∨ ∃ path ∈ path?, (surroundings.document? path).isSome := by
    cases path? <;> simp
  have hreport := run_verdict library keyring hsettings hgenesis hinput hblank
  rw [← invoke_run] at hreport
  rw [← hcommands, ← verdict?_eq_none_iff]
  cases hverdict : verdict? surroundings (path?.getD []) with
  | none =>
      obtain ⟨hending, houtput, hshown⟩ : Finished report := by simpa only [hverdict] using hreport
      have hstatus : report.ending.status = 0 := congrArg Ending.status hending
      rw [hstatus]
      refine ⟨houtput, iff_of_true rfl rfl, fun h => absurd rfl h, ?_,
        fun _ => ⟨report.log.shown, hshown, errors_of_ne_misused report (by rw [hending]; decide)⟩⟩
      intro hone
      exact absurd hone (by decide)
  | some cause =>
      obtain ⟨hending, houtput, before, hshown, hbefore⟩ : HaltedFor report cause := by
        simpa only [hverdict] using hreport
      have hstatus : report.ending.status = 1 := congrArg Ending.status hending
      have herrors := errors_of_ne_misused report (by rw [hending]; decide)
      rw [hshown] at herrors
      rw [hstatus]
      refine ⟨houtput, iff_of_false (by decide) (Option.some_ne_none _), fun _ => rfl,
        fun _ => ⟨cause, before, rfl, hbefore, herrors⟩, ?_⟩
      intro hzero
      exact absurd hzero (by decide)

end Node

/-- A command file of blank lines, where nothing else can be opened. -/
def Sample.documents (path : Bytes) : Option Document :=
  if path = utf8 "commands.jsonl" then some (.file (utf8 " \t\r\n\n ")) else none

/-- What opens there has only blank lines. -/
theorem Sample.onlyBlanks_of_documents {path : Bytes} {document : Document}
    (h : documents path = some document) : Command.OnlyBlanks document.content := by
  unfold documents at h
  split_ifs at h
  cases h
  decide

namespace Node

/-- Over a backend that works with the identities and signatures of Ed25519 for the phrases of the
local testnet, a custom chain whose genesis file cannot be opened halts the run with a fatal entry,
although the command file cannot be opened either and the log keeps nothing. On the local testnet,
with a command file that can be opened and an unknown level, the run ends with status zero. -/
theorem run_reports_verdict_custom :
    let backend :=
      Sample.backend (Preset.localTestnet.endowments.map fun endowment => seedOfPhrase endowment.1)
    let library := Json.Text.library
    let custom : Surroundings :=
      { environment :=
          { settingsFile := some (utf8 "node.json"), chain := some (utf8 "custom"),
            genesisFile := some (utf8 "genesis.json"), logLevel := some (utf8 "FATAL"),
            logCapacity := some (utf8 "0") }
        document? := Sample.documents }
    let testnet : Surroundings :=
      { environment := { logLevel := some (utf8 "LOUD"), logCapacity := some (utf8 "-1") }
        document? := Sample.documents }
    let halted := invoke backend.scheme library custom [utf8 "run", utf8 "other.jsonl"]
    let finished := invoke backend.scheme library testnet [utf8 "run", utf8 "commands.jsonl"]
    backend.AcceptsOwn ∧
      custom.document? (utf8 "genesis.json") = none ∧
      custom.document? (utf8 "other.jsonl") = none ∧
      halted.output = [] ∧ halted.ending.status = 1 ∧
      (∃ before : List Entry, ∀ stamp, halted.errors stamp =
        (before.flatMap fun entry => stamp ++ entry.line) ++
          (stamp ++ utf8 "[FATAL] MalformedInput: cannot open genesis file genesis.json\n")) ∧
      (testnet.document? (utf8 "commands.jsonl")).isSome ∧
      finished.output = [] ∧ finished.ending.status = 0 := by
  intro backend library custom testnet halted finished
  have hbackend : backend.AcceptsOwn := Sample.acceptsOwn_backend _
  have hcustom := run_reports_verdict backend hbackend library custom (some (utf8 "other.jsonl"))
    (by decide) (by decide) (by decide) fun _ _ _ _ => Sample.onlyBlanks_of_documents
  have htestnet := run_reports_verdict backend hbackend library testnet
    (some (utf8 "commands.jsonl"))
    (by decide) (by decide) (by decide) fun _ _ _ _ => Sample.onlyBlanks_of_documents
  have hhaltedArgs : halted = invoke backend.scheme library custom
      (utf8 "run" :: (some (utf8 "other.jsonl")).toList) := rfl
  have hfinishedArgs : finished = invoke backend.scheme library testnet
      (utf8 "run" :: (some (utf8 "commands.jsonl")).toList) := rfl
  rw [← hhaltedArgs] at hcustom
  rw [← hfinishedArgs] at htestnet
  obtain ⟨hsilent, hzero, hone, hcause, _⟩ := hcustom
  obtain ⟨hsilent', hzero', _, _, _⟩ := htestnet
  have hhalted : halted.ending.status = 1 := hone (mt hzero.mp (by decide))
  have hfinished : finished.ending.status = 0 := hzero'.mpr (by decide)
  obtain ⟨cause, before, hverdict, _, herrors⟩ := hcause hhalted
  have hgenesis : cause = .genesisFile (.missing (utf8 "genesis.json")) :=
    Option.some.inj (hverdict.symm.trans (by decide))
  have hline : utf8 "[" ++ utf8 "FATAL" ++ utf8 "] " ++ cause.message ++ utf8 "\n" =
      utf8 "[FATAL] MalformedInput: cannot open genesis file genesis.json\n" := by
    rw [hgenesis]
    decide
  have hfatal (stamp : Bytes) : halted.errors stamp =
      (before.flatMap fun entry => stamp ++ entry.line) ++
        (stamp ++ utf8 "[FATAL] MalformedInput: cannot open genesis file genesis.json\n") := by
    rw [← hline]
    exact (herrors stamp).trans (List.flatMap_append.trans (congrArg _ (List.flatMap_singleton ..)))
  exact ⟨hbackend, by decide, by decide, hsilent, hhalted, ⟨before, hfatal⟩, by decide, hsilent',
    hfinished⟩

end Node

end Custody
