import AgentManifest.Proofs.Outcome
import AgentManifest.Settings.Effective

/-! Settings by their layers. Each setting is what the first layer gives that has anything to give,
and nothing else has a say in it: neither what stands in the layers below nor any other setting.
What can go wrong is told setting by setting, and the first of these faults is the one reported. -/

namespace AgentManifest

/-- What the layers above the default have for a setting. -/
structure Layers (α : Type) where
  flag : Option α
  /-- The variable, if it holds more than blanks. -/
  filled : Option String
  config : Option α

namespace Layers

variable {α ε : Type} {l l' : Layers α} {read : String → Except ε α}
  {wrap : String → ε → SettingsError} {absent a b : α} {default given : Option α} {text : String}
  {fault : ε} {e : SettingsError}

/-- The setting that the first layer gives; below all layers stands the default, if there is one. -/
inductive Gives (l : Layers α) (read : String → Except ε α) (default : Option α) :
    Option α → Prop where
  | flag {a : α} (given : l.flag = some a) : Gives l read default (some a)
  | environment {a : α} {text : String} (unflagged : l.flag = none) (given : l.filled = some text)
      (reads : read text = .ok a) : Gives l read default (some a)
  | config {a : α} (unflagged : l.flag = none) (unfilled : l.filled = none)
      (given : l.config = some a) : Gives l read default (some a)
  | default (unflagged : l.flag = none) (unfilled : l.filled = none) (silent : l.config = none) :
      Gives l read default default

/-- The setting is left to the variable, and the variable cannot be read. -/
structure Breaks (l : Layers α) (read : String → Except ε α) (text : String) (fault : ε) :
    Prop where
  unflagged : l.flag = none
  given : l.filled = some text
  fails : read text = .error fault

/-- The layers have the same down to the first that gives the setting, whatever stands below. -/
structure AgreeDown (l l' : Layers α) : Prop where
  flag : l.flag = l'.flag
  filled : l.flag = none → l.filled = l'.filled
  config : l.flag = none → l.filled = none → l.config = l'.config

/-- The setting by its layers, with the text of a variable that cannot be read. -/
def chosen (l : Layers α) (read : String → Except ε α) (wrap : String → ε → SettingsError)
    (absent : α) : Except SettingsError α :=
  Settings.layered l.flag l.filled (fun text => (read text).mapError (wrap text)) l.config absent

theorem AgreeDown.symm (agree : l.AgreeDown l') : l'.AgreeDown l where
  flag := agree.flag.symm
  filled unflagged := (agree.filled (agree.flag.trans unflagged)).symm
  config unflagged unfilled := by
    have unflagged' := agree.flag.trans unflagged
    exact (agree.config unflagged' ((agree.filled unflagged').trans unfilled)).symm

theorem Gives.of_agree (agree : l.AgreeDown l') (gives : l.Gives read default given) :
    l'.Gives read default given := by
  cases gives with
  | flag given => exact .flag (agree.flag ▸ given)
  | environment unflagged given reads =>
      exact .environment (agree.flag ▸ unflagged) (agree.filled unflagged ▸ given) reads
  | config unflagged unfilled given =>
      exact .config (agree.flag ▸ unflagged) (agree.filled unflagged ▸ unfilled)
        (agree.config unflagged unfilled ▸ given)
  | default unflagged unfilled silent =>
      exact .default (agree.flag ▸ unflagged) (agree.filled unflagged ▸ unfilled)
        (agree.config unflagged unfilled ▸ silent)

theorem Breaks.of_agree (agree : l.AgreeDown l') (breaks : l.Breaks read text fault) :
    l'.Breaks read text fault where
  unflagged := agree.flag ▸ breaks.unflagged
  given := agree.filled breaks.unflagged ▸ breaks.given
  fails := breaks.fails

/-- A setting that is given is the only one given. -/
theorem Gives.unique {other : Option α} (gives : l.Gives read default given)
    (gives' : l.Gives read default other) : given = other := by
  cases gives <;> cases gives' <;> simp_all

theorem Gives.not_breaks (gives : l.Gives read default given) : ¬ l.Breaks read text fault := by
  rintro ⟨unflagged, filled, fails⟩
  cases gives <;> simp_all

/-- Where there is a default, a setting is given unless its variable cannot be read. -/
theorem gives_or_breaks (l : Layers α) (read : String → Except ε α) (absent : α) :
    (∃ a, l.Gives read (some absent) (some a)) ∨ ∃ text fault, l.Breaks read text fault := by
  cases flag : l.flag with
  | some a => exact .inl ⟨a, .flag flag⟩
  | none =>
      cases filled : l.filled with
      | some text =>
          cases reads : read text with
          | ok a => exact .inl ⟨a, .environment flag filled reads⟩
          | error fault => exact .inr ⟨text, fault, flag, filled, reads⟩
      | none =>
          cases config : l.config with
          | some a => exact .inl ⟨a, .config flag filled config⟩
          | none => exact .inl ⟨absent, .default flag filled config⟩

theorem chosen_eq_ok_iff :
    l.chosen read wrap absent = .ok a ↔ l.Gives read (some absent) (some a) := by
  obtain ⟨flag, filled, config⟩ := l
  constructor
  · intro succeeded
    cases flag with
    | some b =>
        cases succeeded
        exact .flag rfl
    | none =>
        cases filled with
        | some text => exact .environment rfl rfl (mapError_eq_ok.mp succeeded)
        | none =>
            cases config <;> cases succeeded
            · exact .default rfl rfl rfl
            · exact .config rfl rfl rfl
  · intro gives
    cases gives <;> simp_all [chosen, Settings.layered]

theorem chosen_eq_error_iff : l.chosen read wrap absent = .error e ↔
    ∃ text fault, l.Breaks read text fault ∧ wrap text fault = e := by
  obtain ⟨flag, filled, config⟩ := l
  constructor
  · intro failed
    cases flag with
    | some b => cases failed
    | none =>
        cases filled with
        | some text =>
            obtain ⟨fault, fails, same⟩ := mapError_eq_error.mp failed
            exact ⟨text, fault, ⟨rfl, rfl, fails⟩, same⟩
        | none => cases failed
  · rintro ⟨text, fault, ⟨unflagged, filled, fails⟩, rfl⟩
    simp_all [chosen, Settings.layered]

/-- Any text sets a setting that is a text. -/
def readText (text : String) : Except Empty String := .ok text

/-- A setting that nothing has to set. -/
theorem or_eq_iff {l : Layers String} {given : Option String} :
    l.flag.or (l.filled.or l.config) = given ↔
      l.Gives readText none given := by
  obtain ⟨flag, filled, config⟩ := l
  constructor
  · rintro rfl
    cases flag with
    | some a => exact .flag rfl
    | none =>
        cases filled with
        | some a => exact .environment rfl rfl rfl
        | none =>
            cases config with
            | some a => exact .config rfl rfl rfl
            | none => exact .default rfl rfl rfl
  · intro gives
    cases gives <;> simp_all [readText]

end Layers

/-- The settings, in the order in which they are looked at. -/
inductive Setting where
  | missingResources
  | createMode
  | maxConcurrency
  | baseUrl
  | outputDirectory
  deriving DecidableEq

namespace Setting

/-- How many settings are looked at before. -/
def rank : Setting → Nat
  | .missingResources => 0
  | .createMode => 1
  | .maxConcurrency => 2
  | .baseUrl => 3
  | .outputDirectory => 4

end Setting

/-- Where settings come from. -/
structure SettingSources where
  flags : Flags
  env : Environment
  config : Option IntakeConfig

namespace SettingSources

def missingResources (sources : SettingSources) : Layers MissingResourcePolicy where
  flag := sources.flags.missingResources
  filled := sources.env.filled? "CORTEX_INTAKE_MISSING_RESOURCES"
  config := sources.config.bind (·.missingResources)

def createMode (sources : SettingSources) : Layers CreateMode where
  flag := sources.flags.createMode
  filled := sources.env.filled? "CORTEX_INTAKE_CREATE_MODE"
  config := sources.config.bind (·.createMode)

def maxConcurrency (sources : SettingSources) : Layers Nat where
  flag := sources.flags.maxConcurrency
  filled := sources.env.filled? "CORTEX_INTAKE_MAX_CONCURRENCY"
  config := sources.config.bind (·.maxConcurrency)

def baseUrl (sources : SettingSources) : Layers String where
  flag := sources.flags.baseUrl
  filled := sources.env.filled? "CORTEX_INTAKE_BASE_URL"
  config := sources.config.bind (·.baseUrl)

/-- No variable gives the output directory. In the configuration it may start at the home. -/
def outputDirectory (sources : SettingSources) : Layers String where
  flag := sources.flags.outputDirectory
  filled := none
  config := (sources.config.bind (·.outputDirectory)).map sources.env.expandHome

/-- A number of documents as a variable writes it. -/
def readConcurrency (text : String) : Except CountFault Nat :=
  countOfText (Text.trimBlanks text.toList)

variable {sources other : SettingSources} {s s' : Settings} {e : SettingsError} {setting : Setting}

def resolve (sources : SettingSources) : Except SettingsError Settings :=
  Settings.resolve sources.flags sources.env sources.config

/-- Whether each setting is the one that its first layer gives. -/
structure Gives (sources : SettingSources) (s : Settings) : Prop where
  missingResources : sources.missingResources.Gives MissingResourcePolicy.ofText (some .strict)
    (some s.missingResources)
  createMode : sources.createMode.Gives CreateMode.ofText (some .errorIfExists) (some s.createMode)
  maxConcurrency : sources.maxConcurrency.Gives readConcurrency (some 4) (some s.maxConcurrency)
  baseUrl : sources.baseUrl.Gives Layers.readText none s.baseUrl
  outputDirectory : sources.outputDirectory.Gives Layers.readText none
    s.outputDirectory

/-- What is wrong with a setting: the variable that it is left to cannot be read, or there are to be
no documents at once. -/
inductive Breaks (sources : SettingSources) : SettingsError → Prop where
  | missingResources {text : String} {fault : MissingResourcePolicy.Unknown}
      (breaks : sources.missingResources.Breaks MissingResourcePolicy.ofText text fault) :
      Breaks sources (.missingResources text fault)
  | createMode {text : String} {fault : CreateMode.Unknown}
      (breaks : sources.createMode.Breaks CreateMode.ofText text fault) :
      Breaks sources (.createMode text fault)
  | maxConcurrency {text : String} {fault : CountFault}
      (breaks : sources.maxConcurrency.Breaks readConcurrency text fault) :
      Breaks sources (.maxConcurrency text fault)
  | zeroConcurrency (counted : sources.maxConcurrency.Gives readConcurrency (some 4) (some 0)) :
      Breaks sources .zeroConcurrency

/-- Whether a setting has the same in both sources, down to the first layer that gives it. -/
def AgreeOn (sources other : SettingSources) : Setting → Prop
  | .missingResources => sources.missingResources.AgreeDown other.missingResources
  | .createMode => sources.createMode.AgreeDown other.createMode
  | .maxConcurrency => sources.maxConcurrency.AgreeDown other.maxConcurrency
  | .baseUrl => sources.baseUrl.AgreeDown other.baseUrl
  | .outputDirectory => sources.outputDirectory.AgreeDown other.outputDirectory

end SettingSources

/-- Whether a setting is the same in both. -/
def Settings.SameIn (s s' : Settings) : Setting → Prop
  | .missingResources => s.missingResources = s'.missingResources
  | .createMode => s.createMode = s'.createMode
  | .maxConcurrency => s.maxConcurrency = s'.maxConcurrency
  | .baseUrl => s.baseUrl = s'.baseUrl
  | .outputDirectory => s.outputDirectory = s'.outputDirectory

/-- The setting that is at fault. -/
def SettingsError.setting : SettingsError → Setting
  | .missingResources .. => .missingResources
  | .createMode .. => .createMode
  | .maxConcurrency .. | .zeroConcurrency => .maxConcurrency

namespace SettingSources

variable {sources other : SettingSources} {s s' : Settings} {e : SettingsError} {setting : Setting}

/-- Settings are put together from three that may fail and two that may not. -/
theorem resolve_eq : sources.resolve =
    (sources.missingResources.chosen MissingResourcePolicy.ofText .missingResources .strict >>=
      fun missingResources =>
        sources.createMode.chosen CreateMode.ofText .createMode .errorIfExists >>= fun createMode =>
          sources.maxConcurrency.chosen readConcurrency .maxConcurrency 4 >>= fun maxConcurrency =>
            if maxConcurrency = 0 then .error .zeroConcurrency
            else .ok {
              missingResources
              createMode
              baseUrl := sources.baseUrl.flag.or (sources.baseUrl.filled.or sources.baseUrl.config)
              outputDirectory := sources.outputDirectory.flag.or
                (sources.outputDirectory.filled.or sources.outputDirectory.config)
              maxConcurrency }) := by
  refine bind_congr fun missingResources => bind_congr fun createMode =>
    bind_congr fun maxConcurrency => ?_
  split <;> rfl

theorem resolve_eq_ok_iff : sources.resolve = .ok s ↔ sources.Gives s ∧ s.maxConcurrency ≠ 0 := by
  rw [resolve_eq]
  simp only [bind_eq_ok, Layers.chosen_eq_ok_iff]
  constructor
  · rintro ⟨policy, givesPolicy, mode, givesMode, count, givesCount, rest⟩
    split at rest
    next => cases rest
    next positive =>
      cases rest
      exact ⟨⟨givesPolicy, givesMode, givesCount, Layers.or_eq_iff.mp rfl, Layers.or_eq_iff.mp rfl⟩,
        positive⟩
  · rintro ⟨gives, positive⟩
    refine ⟨_, gives.missingResources, _, gives.createMode, _, gives.maxConcurrency, ?_⟩
    rw [if_neg positive, Layers.or_eq_iff.mpr gives.baseUrl, Layers.or_eq_iff.mpr gives.outputDirectory]

theorem one_le_rank {policy : MissingResourcePolicy} (breaks : sources.Breaks e)
    (gives : sources.missingResources.Gives MissingResourcePolicy.ofText (some .strict) (some policy)) :
    1 ≤ e.setting.rank := by
  cases breaks with
  | missingResources breaks => exact absurd breaks gives.not_breaks
  | createMode | maxConcurrency | zeroConcurrency => simp [SettingsError.setting, Setting.rank]

theorem two_le_rank {policy : MissingResourcePolicy} {mode : CreateMode} (breaks : sources.Breaks e)
    (gives : sources.missingResources.Gives MissingResourcePolicy.ofText (some .strict) (some policy))
    (gives' : sources.createMode.Gives CreateMode.ofText (some .errorIfExists) (some mode)) :
    2 ≤ e.setting.rank := by
  cases breaks with
  | missingResources breaks => exact absurd breaks gives.not_breaks
  | createMode breaks => exact absurd breaks gives'.not_breaks
  | maxConcurrency | zeroConcurrency => simp [SettingsError.setting, Setting.rank]

/-- A setting that is not at fault is given. -/
theorem exists_missingResources (sound : ∀ e, sources.Breaks e → 1 ≤ e.setting.rank) : ∃ policy,
    sources.missingResources.Gives MissingResourcePolicy.ofText (some .strict) (some policy) := by
  rcases sources.missingResources.gives_or_breaks MissingResourcePolicy.ofText .strict with
    given | ⟨text, fault, breaks⟩
  · exact given
  · exact absurd (sound _ (.missingResources breaks)) (Nat.not_succ_le_zero 0)

theorem exists_createMode (sound : ∀ e, sources.Breaks e → 2 ≤ e.setting.rank) : ∃ mode,
    sources.createMode.Gives CreateMode.ofText (some .errorIfExists) (some mode) := by
  rcases sources.createMode.gives_or_breaks CreateMode.ofText .errorIfExists with
    given | ⟨text, fault, breaks⟩
  · exact given
  · exact absurd (sound _ (.createMode breaks)) (Nat.not_succ_le_self 1)

/-- What goes wrong goes wrong with one setting, and with none before it. -/
theorem resolve_eq_error_iff : sources.resolve = .error e ↔
    sources.Breaks e ∧ ∀ e', sources.Breaks e' → e.setting.rank ≤ e'.setting.rank := by
  rw [resolve_eq]
  simp only [bind_eq_error, Layers.chosen_eq_ok_iff, Layers.chosen_eq_error_iff]
  constructor
  · rintro (⟨text, fault, breaks, rfl⟩ | ⟨policy, gives, onward⟩)
    · exact ⟨.missingResources breaks, fun _ _ => Nat.zero_le _⟩
    rcases onward with ⟨text, fault, breaks, rfl⟩ | ⟨mode, gives', onward⟩
    · exact ⟨.createMode breaks, fun _ breaks' => one_le_rank breaks' gives⟩
    rcases onward with ⟨text, fault, breaks, rfl⟩ | ⟨count, counted, rest⟩
    · exact ⟨.maxConcurrency breaks, fun _ breaks' => two_le_rank breaks' gives gives'⟩
    split at rest
    next zero =>
      cases rest
      exact ⟨.zeroConcurrency (zero ▸ counted), fun _ breaks' => two_le_rank breaks' gives gives'⟩
    next => cases rest
  · rintro ⟨breaks, first⟩
    cases breaks with
    | missingResources breaks => exact .inl ⟨_, _, breaks, rfl⟩
    | createMode breaks =>
        obtain ⟨policy, gives⟩ := exists_missingResources first
        exact .inr ⟨policy, gives, .inl ⟨_, _, breaks, rfl⟩⟩
    | maxConcurrency breaks =>
        obtain ⟨policy, gives⟩ := exists_missingResources fun e b => Nat.le_of_succ_le (first e b)
        obtain ⟨mode, gives'⟩ := exists_createMode first
        exact .inr ⟨policy, gives, .inr ⟨mode, gives', .inl ⟨_, _, breaks, rfl⟩⟩⟩
    | zeroConcurrency counted =>
        obtain ⟨policy, gives⟩ := exists_missingResources fun e b => Nat.le_of_succ_le (first e b)
        obtain ⟨mode, gives'⟩ := exists_createMode first
        exact .inr ⟨policy, gives, .inr ⟨mode, gives', .inr ⟨0, counted, if_pos rfl⟩⟩⟩

theorem Gives.not_breaks (gives : sources.Gives s) (positive : s.maxConcurrency ≠ 0) :
    ¬ sources.Breaks e := by
  intro breaks
  cases breaks with
  | missingResources breaks => exact gives.missingResources.not_breaks breaks
  | createMode breaks => exact gives.createMode.not_breaks breaks
  | maxConcurrency breaks => exact gives.maxConcurrency.not_breaks breaks
  | zeroConcurrency counted => exact positive (Option.some.inj (gives.maxConcurrency.unique counted))

theorem exists_resolve_eq_error_iff : (∃ e, sources.resolve = .error e) ↔ ∃ e, sources.Breaks e := by
  refine ⟨fun ⟨e, failed⟩ => ⟨e, (resolve_eq_error_iff.mp failed).1⟩, fun ⟨e, breaks⟩ => ?_⟩
  cases resolved : sources.resolve with
  | error e => exact ⟨e, rfl⟩
  | ok s =>
      obtain ⟨gives, positive⟩ := resolve_eq_ok_iff.mp resolved
      exact absurd breaks (gives.not_breaks positive)

theorem Gives.of_agree (agree : ∀ setting, sources.AgreeOn other setting) (gives : sources.Gives s) :
    other.Gives s where
  missingResources := gives.missingResources.of_agree (agree .missingResources)
  createMode := gives.createMode.of_agree (agree .createMode)
  maxConcurrency := gives.maxConcurrency.of_agree (agree .maxConcurrency)
  baseUrl := gives.baseUrl.of_agree (agree .baseUrl)
  outputDirectory := gives.outputDirectory.of_agree (agree .outputDirectory)

theorem Breaks.of_agree (agree : sources.AgreeOn other e.setting) (breaks : sources.Breaks e) :
    other.Breaks e := by
  cases breaks with
  | missingResources breaks => exact .missingResources (breaks.of_agree agree)
  | createMode breaks => exact .createMode (breaks.of_agree agree)
  | maxConcurrency breaks => exact .maxConcurrency (breaks.of_agree agree)
  | zeroConcurrency counted => exact .zeroConcurrency (counted.of_agree agree)

theorem AgreeOn.symm (agree : sources.AgreeOn other setting) : other.AgreeOn sources setting := by
  cases setting <;> exact Layers.AgreeDown.symm agree

/-- Settings with the same layers are the same, whatever the others are. -/
theorem Gives.sameIn (agree : sources.AgreeOn other setting) (gives : sources.Gives s)
    (gives' : other.Gives s') : s.SameIn s' setting := by
  cases setting with
  | missingResources =>
      exact Option.some.inj ((gives.missingResources.of_agree agree).unique gives'.missingResources)
  | createMode => exact Option.some.inj ((gives.createMode.of_agree agree).unique gives'.createMode)
  | maxConcurrency =>
      exact Option.some.inj ((gives.maxConcurrency.of_agree agree).unique gives'.maxConcurrency)
  | baseUrl => exact (gives.baseUrl.of_agree agree).unique gives'.baseUrl
  | outputDirectory => exact (gives.outputDirectory.of_agree agree).unique gives'.outputDirectory

theorem resolve_congr (agree : ∀ setting, sources.AgreeOn other setting) :
    sources.resolve = other.resolve := by
  symm
  cases resolved : sources.resolve with
  | ok s =>
      obtain ⟨gives, positive⟩ := resolve_eq_ok_iff.mp resolved
      exact resolve_eq_ok_iff.mpr ⟨gives.of_agree agree, positive⟩
  | error e =>
      obtain ⟨breaks, first⟩ := resolve_eq_error_iff.mp resolved
      refine resolve_eq_error_iff.mpr ⟨breaks.of_agree (agree _), fun e' breaks' => ?_⟩
      exact first e' (breaks'.of_agree (agree _).symm)

/-- Settings are the ones that the first layers give, where there is to be a document at once. They
fail if and only if a variable that a setting is left to cannot be read or there are to be none, and
the first of these faults is reported. What stands below the layer that gives a setting makes no
difference at all; settings with the same layers are the same whatever the layers of the others are,
and where one of them is at fault in some sources, these settings fail as well. -/
theorem settings_are_layered (sources : SettingSources) :
    (∀ s, sources.resolve = .ok s ↔ sources.Gives s ∧ s.maxConcurrency ≠ 0) ∧
      ((∃ e, sources.resolve = .error e) ↔ ∃ e, sources.Breaks e) ∧
      (∀ e, sources.resolve = .error e ↔
        sources.Breaks e ∧ ∀ e', sources.Breaks e' → e.setting.rank ≤ e'.setting.rank) ∧
      (∀ other : SettingSources, (∀ setting, sources.AgreeOn other setting) →
        sources.resolve = other.resolve) ∧
      (∀ (other : SettingSources) (s s' : Settings) (setting : Setting), sources.resolve = .ok s →
        other.resolve = .ok s' → sources.AgreeOn other setting → s.SameIn s' setting) ∧
      ∀ (other : SettingSources) (e : SettingsError), other.resolve = .error e →
        sources.AgreeOn other e.setting → ∃ e', sources.resolve = .error e' := by
  refine ⟨fun s => resolve_eq_ok_iff, exists_resolve_eq_error_iff, fun e => resolve_eq_error_iff,
    fun other => resolve_congr, fun other s s' setting resolved resolved' agree => ?_,
    fun other e failed agree => ?_⟩
  · exact (resolve_eq_ok_iff.mp resolved).1.sameIn agree (resolve_eq_ok_iff.mp resolved').1
  · obtain ⟨breaks, -⟩ := resolve_eq_error_iff.mp failed
    exact exists_resolve_eq_error_iff.mpr ⟨e, breaks.of_agree agree.symm⟩

/-- Every layer gives something, a blank variable aside. -/
def mixedSources : SettingSources where
  flags := { maxConcurrency := some 1 }
  env := [("CORTEX_INTAKE_MISSING_RESOURCES", "  "), ("CORTEX_INTAKE_CREATE_MODE", "or-replace"),
    ("HOME", "/home/user")]
  config := some {
    missingResources := some .lenient
    createMode := some .ifNotExists
    outputDirectory := some "~/out" }

/-- The same, with what cannot be read in a layer below the one that gives the setting. -/
def mixedOverRubbish : SettingSources where
  flags := { maxConcurrency := some 1 }
  env := [("CORTEX_INTAKE_CREATE_MODE", "or-replace"), ("CORTEX_INTAKE_MAX_CONCURRENCY", "many"),
    ("HOME", "/home/user")]
  config := some {
    missingResources := some .lenient
    outputDirectory := some "~/out"
    maxConcurrency := some 0 }

theorem settings_are_layered_over_rubbish :
    (∀ setting, mixedSources.AgreeOn mixedOverRubbish setting) ∧
      mixedSources.resolve = .ok ⟨.lenient, .orReplace, none, some "/home/user/out", 1⟩ ∧
      mixedSources.resolve = mixedOverRubbish.resolve := by
  have agree : ∀ setting, mixedSources.AgreeOn mixedOverRubbish setting := by
    intro setting
    cases setting <;> exact ⟨by decide, by decide, by decide⟩
  obtain ⟨-, -, -, alike, -⟩ := settings_are_layered mixedSources
  exact ⟨agree, rfl, alike mixedOverRubbish agree⟩

end SettingSources
end AgentManifest
