import Playbook.Main
import Playbook.Proofs.CommandLineGrammar

/-! # What a command line overrides

The last use of a flag decides on its setting, whatever the environment says of it. A variable that is
overridden is read all the same: one that asks for an unknown dialect is refused before the flags are
looked at. That is all that such a variable can change. -/

namespace Playbook

open CommandLine

/-- The variable of the environment that a flag overrides. -/
def Flag.variableName? : Flag → Option Text
  | .help => none
  | .input => some "WEBPLAY_PLAYBOOK"
  | .debug => some "WEBPLAY_DEBUG"
  | .proxy => some "WEBPLAY_PROXY"
  | .report => some "WEBPLAY_REPORT"
  | .dialect => some "WEBPLAY_SYNTAX"
  | .strict => some "WEBPLAY_STRICT"

theorem Flag.variableName?_injective {flag other : Flag} {name : Text}
    (h : flag.variableName? = some name) (h' : other.variableName? = some name) : flag = other := by
  have hsame := h.trans h'.symm
  cases flag <;> cases other <;> first | rfl | simp [variableName?] at hsame

/-- The name of a dialect that an environment asks for although there is none of that name. -/
def Settings.unknownDialect? (environment : Environment) : Option Text :=
  let choice := word (text environment "WEBPLAY_SYNTAX" default.dialect.name)
  if (Dialect.ofName? choice).isNone then some choice else none

/-- A setting is what a use of its flag says. -/
def Settings.Shows (settings : Settings) (use : Use) : Prop :=
  match use.flag, use.given with
  | .input, some given => given = .value settings.playbook
  | .proxy, some given => given = settings.proxy
  | .report, some given => given = settings.reportPath
  | .dialect, some given => given = .value settings.dialect.name
  | .debug, none => settings.debug = true
  | .strict, none => settings.strict = true
  | _, _ => False

/-- Two environments agree on all variables of settings but those that uses of flags override. -/
def AgreeBut (uses : List Use) (environment other : Environment) : Prop :=
  ∀ name ∈ Rehearsal.variableNames.map Text.ofString,
    (∀ use ∈ uses, use.flag.variableName? ≠ some name) →
      environment.lookup name = other.lookup name

instance (uses : List Use) (environment other : Environment) :
    Decidable (AgreeBut uses environment other) :=
  inferInstanceAs (Decidable (∀ name ∈ Rehearsal.variableNames.map Text.ofString,
    (∀ use ∈ uses, use.flag.variableName? ≠ some name) →
      environment.lookup name = other.lookup name))

namespace Settings

variable {environment other : Environment} {name : Text}

theorem text_congr (h : environment.lookup name = other.lookup name) (fallback : Text) :
    text environment name fallback = text other name fallback := by
  rw [text, h, text]

theorem given_congr (h : environment.lookup name = other.lookup name) (fallback : Given Text) :
    given environment name fallback = given other name fallback := by
  rw [given, h, given]

theorem switch_congr (h : environment.lookup name = other.lookup name) (fallback : Bool) :
    switch environment name fallback = switch other name fallback := by
  rw [switch, h, switch]

end Settings

/-- An environment makes settings unless it asks for an unknown dialect. -/
theorem Settings.ofEnvironment_cases (environment : Environment) :
    (∃ base, ofEnvironment environment = .ok base ∧ unknownDialect? environment = none) ∨
      ∃ name, ofEnvironment environment = .error ⟨name⟩ ∧
        unknownDialect? environment = some name := by
  rw [ofEnvironment, unknownDialect?]
  cases Dialect.ofName? (word (text environment "WEBPLAY_SYNTAX" default.dialect.name)) with
  | none => exact .inr ⟨_, rfl, rfl⟩
  | some dialect => exact .inl ⟨_, rfl, rfl⟩

namespace CommandLine

variable {dashes : DashRule} {flags after : Flags} {uses : List Use} {use : Use}

/-- A use that gives a value just if its flag takes one. -/
def Use.Fitting (use : Use) : Prop := use.given.isSome = use.flag.takesValue

theorem Writes.fitting {words : List Text} (h : Writes dashes words uses) : ∀ use ∈ uses, use.Fitting := by
  induction h with
  | nil => simp
  | switch _ hswitch _ ih => exact List.forall_mem_cons.mpr ⟨hswitch.symm, ih⟩
  | attached _ htakes _ _ ih => exact List.forall_mem_cons.mpr ⟨htakes.symm, ih⟩
  | dropped _ htakes _ _ ih => exact List.forall_mem_cons.mpr ⟨htakes.symm, ih⟩
  | separate _ htakes _ _ ih => exact List.forall_mem_cons.mpr ⟨htakes.symm, ih⟩

/-- Flags say what a use says. -/
def Flags.Holds (flags : Flags) (use : Use) : Prop :=
  match use.flag, use.given with
  | .input, some given => flags.playbook = some given
  | .proxy, some given => flags.proxy = some given
  | .report, some given => flags.reportPath = some given
  | .dialect, some given => ∃ dialect, givenDialect given = .ok dialect ∧ flags.dialect = some dialect
  | .debug, .none => flags.debug = true
  | .strict, .none => flags.strict = true
  | _, _ => False

/-- A use that is noted is what the flags say. -/
theorem Flags.holds_of_note (hfitting : use.Fitting) (h : flags.note use = .ok after) :
    after.Holds use := by
  obtain ⟨flag, given⟩ := use
  cases given <;> cases flag
  case none.input | none.proxy | none.report | none.dialect => cases hfitting
  case some.help | some.debug | some.strict => cases hfitting
  case none.help => cases h
  case some.dialect =>
    obtain ⟨dialect, hdialect, rfl⟩ := map_eq_ok.mp h
    exact ⟨dialect, hdialect, rfl⟩
  all_goals
    obtain rfl := Except.ok.inj h
    rfl

/-- A use of another flag does not change what the flags say of this one. -/
theorem Flags.holds_of_note_other {other : Use} (hother : other.flag ≠ use.flag)
    (h : flags.note other = .ok after) (hholds : flags.Holds use) : after.Holds use := by
  obtain ⟨flag, given⟩ := other
  obtain ⟨flag', given'⟩ := use
  cases given <;> cases flag
  case none.help => cases h
  case some.dialect =>
    obtain ⟨dialect, -, rfl⟩ := map_eq_ok.mp h
    cases flag' <;> cases given' <;> first | exact hholds | exact absurd rfl hother
  all_goals
    obtain rfl := Except.ok.inj h
    cases flag' <;> cases given' <;> first | exact hholds | exact absurd rfl hother

theorem Flags.holds_of_foldlM {rest : List Use} (h : rest.foldlM Flags.note flags = .ok after)
    (hother : ∀ other ∈ rest, other.flag ≠ use.flag) (hholds : flags.Holds use) :
    after.Holds use := by
  induction rest generalizing flags with
  | nil =>
      obtain rfl := Except.ok.inj h
      exact hholds
  | cons other rest ih =>
      rw [List.foldlM_cons] at h
      obtain ⟨next, hnext, h⟩ := bind_eq_ok.mp h
      obtain ⟨hfirst, hrest⟩ := List.forall_mem_cons.mp hother
      exact ih h hrest (holds_of_note_other hfirst hnext hholds)

/-- The last use of a flag is what the flags say in the end. -/
theorem Flags.holds_of_last {first rest : List Use}
    (h : (first ++ use :: rest).foldlM Flags.note flags = .ok after) (hfitting : use.Fitting)
    (hlast : ∀ other ∈ rest, other.flag ≠ use.flag) : after.Holds use := by
  rw [List.foldlM_append] at h
  obtain ⟨before, -, h⟩ := bind_eq_ok.mp h
  rw [List.foldlM_cons] at h
  obtain ⟨noted, hnoted, h⟩ := bind_eq_ok.mp h
  exact holds_of_foldlM h hlast (holds_of_note hfitting hnoted)

/-- A flag that is used is used for the last time somewhere. -/
theorem exists_last_use {flag : Flag} (h : ∃ use ∈ uses, use.flag = flag) :
    ∃ first use rest, uses = first ++ use :: rest ∧ use.flag = flag ∧
      ∀ other ∈ rest, other.flag ≠ flag := by
  induction uses with
  | nil => simp at h
  | cons use uses ih =>
      by_cases hmore : ∃ later ∈ uses, later.flag = flag
      · obtain ⟨first, later, rest, rfl, hflag, hlast⟩ := ih hmore
        exact ⟨use :: first, later, rest, rfl, hflag, hlast⟩
      · have hflag : use.flag = flag := by
          obtain ⟨later, hlater, hflag⟩ := h
          rcases List.mem_cons.mp hlater with rfl | hlater
          · exact hflag
          · exact absurd ⟨later, hlater, hflag⟩ hmore
        exact ⟨[], use, uses, rfl, hflag, fun other hother hsame => hmore ⟨other, hother, hsame⟩⟩

/-- Flags say something of a setting. -/
def Flags.gives (flags : Flags) : Flag → Bool
  | .help => false
  | .input => flags.playbook.isSome
  | .debug => flags.debug
  | .proxy => flags.proxy.isSome
  | .report => flags.reportPath.isSome
  | .dialect => flags.dialect.isSome
  | .strict => flags.strict

theorem Flags.Holds.gives (h : flags.Holds use) : flags.gives use.flag = true := by
  obtain ⟨flag, given⟩ := use
  cases flag <;> cases given <;> simp_all [Flags.Holds, Flags.gives]
  obtain ⟨dialect, -, hdialect⟩ := h
  simp [hdialect]

theorem Dialect.name_of_ofName? {name : Text} {dialect : Dialect}
    (h : Dialect.ofName? name = some dialect) : dialect.name = name := by
  simpa using List.find?_some h

/-- Settings that the flags were applied to show what the flags say. -/
theorem Flags.Holds.shows (h : flags.Holds use) {base settings : Settings}
    (happly : flags.apply base = .ok settings) : settings.Shows use := by
  rw [Flags.apply] at happly
  obtain ⟨dialect, hdialect, happly⟩ := bind_eq_ok.mp happly
  obtain ⟨playbook, hplaybook, happly⟩ := bind_eq_ok.mp happly
  obtain rfl := Except.ok.inj happly
  obtain ⟨flag, given⟩ := use
  cases given with
  | none =>
      cases flag with
      | debug | strict =>
          have hset : _ = true := h
          simp [Settings.Shows, hset]
      | help | input | proxy | report | dialect => exact h
  | some given =>
      cases flag with
      | input =>
          have hset : flags.playbook = some given := h
          rw [hset] at hplaybook
          cases given with
          | nothing => cases hplaybook
          | value path => exact congrArg Given.value (Except.ok.inj hplaybook)
      | proxy | report =>
          have hset : _ = some given := h
          simp [Settings.Shows, hset]
      | dialect =>
          obtain ⟨found, hfound, hset⟩ := h
          rw [hset] at hdialect
          cases given with
          | nothing =>
              obtain rfl := Except.ok.inj hfound
              cases hdialect
          | value name =>
              rw [givenDialect] at hfound
              split at hfound
              · rename_i named hnamed
                obtain rfl := Except.ok.inj hfound
                obtain rfl := Except.ok.inj hdialect
                exact congrArg Given.value (Dialect.name_of_ofName? hnamed).symm
              · cases hfound
      | help | debug | strict => exact h

/-- What is overridden plays no part. -/
theorem override_congr {α : Type} {setting setting' : α} {given : Option (Given α)}
    (h : given = none → setting = setting') (absent : Fault) :
    override setting absent given = override setting' absent given := by
  match given with
  | .none => rw [h rfl]
  | some (.value _) | some .nothing => rfl

theorem getD_congr {α : Type} {setting setting' : α} {given : Option α}
    (h : given = none → setting = setting') : given.getD setting = given.getD setting' := by
  cases given with
  | none => exact h rfl
  | some value => rfl

theorem or_congr {switch setting setting' : Bool} (h : switch = false → setting = setting') :
    (switch || setting) = (switch || setting') := by
  cases switch with
  | false => rw [h rfl]
  | true => rfl

section Agree

variable {environment other : Environment} {base base' : Settings}

/-- Where flags are applied to what environments make that agree on the variables of all other flags,
the settings are the same. -/
theorem apply_eq_of_agree
    (hagree : ∀ flag : Flag, flags.gives flag = false → ∀ name, flag.variableName? = some name →
      environment.lookup name = other.lookup name)
    (hdiagnostic : environment.lookup ("WEBPLAY_DIAGNOSTIC_SCREENSHOT" : Text) =
      other.lookup ("WEBPLAY_DIAGNOSTIC_SCREENSHOT" : Text))
    (hbase : Settings.ofEnvironment environment = .ok base)
    (hbase' : Settings.ofEnvironment other = .ok base') : flags.apply base = flags.apply base' := by
  rw [Settings.ofEnvironment] at hbase hbase'
  split at hbase
  · cases hbase
  rename_i dialect hdialect
  split at hbase'
  · cases hbase'
  rename_i dialect' hdialect'
  obtain rfl := Except.ok.inj hbase
  obtain rfl := Except.ok.inj hbase'
  have hdialects : flags.dialect = none → dialect = dialect' := by
    intro hnone
    rw [Settings.text_congr (hagree .dialect (by simp [Flags.gives, hnone]) _ rfl), hdialect']
      at hdialect
    exact (Option.some.inj hdialect).symm
  have hplaybooks (fallback : Text) (hnone : flags.playbook = none) :=
    Settings.text_congr (hagree .input (by simp [Flags.gives, hnone]) _ rfl) fallback
  have hreports (fallback : Given Text) (hnone : flags.reportPath = none) :=
    Settings.given_congr (hagree .report (by simp [Flags.gives, hnone]) _ rfl) fallback
  have hproxies (fallback : Given Text) (hnone : flags.proxy = none) :=
    Settings.given_congr (hagree .proxy (by simp [Flags.gives, hnone]) _ rfl) fallback
  have hdebugs (fallback : Bool) (hnone : flags.debug = false) :=
    Settings.switch_congr (hagree .debug hnone _ rfl) fallback
  have hstricts (fallback : Bool) (hnone : flags.strict = false) :=
    Settings.switch_congr (hagree .strict hnone _ rfl) fallback
  simp only [Flags.apply, override_congr hdialects, override_congr (hplaybooks _),
    getD_congr (hreports _), getD_congr (hproxies _), or_congr (hdebugs _), or_congr (hstricts _),
    Settings.text_congr hdiagnostic]

/-- A flag that is used is given. -/
theorem gives_of_use (hwrites : ∀ use ∈ uses, use.Fitting)
    (hflags : uses.foldlM Flags.note .none = .ok flags) (huse : use ∈ uses) :
    flags.gives use.flag = true := by
  obtain ⟨first, last, rest, rfl, hflag, hlast⟩ := exists_last_use ⟨use, huse, rfl⟩
  rw [← hflag]
  exact (Flags.holds_of_last hflags (hwrites last (by simp)) (by rwa [hflag])).gives

/-- Environments that agree but for what is overridden make the same settings, if both make any before
they are overridden. -/
theorem apply_eq_of_agreeBut (hwrites : ∀ use ∈ uses, use.Fitting)
    (hflags : uses.foldlM Flags.note .none = .ok flags) (hagree : AgreeBut uses environment other)
    (hbase : Settings.ofEnvironment environment = .ok base)
    (hbase' : Settings.ofEnvironment other = .ok base') : flags.apply base = flags.apply base' := by
  refine apply_eq_of_agree (fun flag hgives name hname => ?_) ?_ hbase hbase'
  · refine hagree name ?_ fun use huse hoverrides => ?_
    · cases flag <;> cases hname <;> decide
    · obtain rfl := Flag.variableName?_injective hoverrides hname
      rw [gives_of_use hwrites hflags huse] at hgives
      cases hgives
  · refine hagree _ (by decide) fun use _ => ?_
    cases use.flag <;> simp [Flag.variableName?]

/-- Where the flags make the same settings of both environments, only a refusal of one of these tells
them apart. -/
theorem settings_eq_iff {words : List Text} (hwords : parse dashes words = .ok flags)
    (happly : ∀ base base', Settings.ofEnvironment environment = .ok base →
      Settings.ofEnvironment other = .ok base' → flags.apply base = flags.apply base') :
    Program.settings dashes words environment = Program.settings dashes words other ↔
      Settings.unknownDialect? environment = Settings.unknownDialect? other := by
  have hknown {environment : Environment} {base : Settings}
      (hbase : Settings.ofEnvironment environment = .ok base) :
      Program.settings dashes words environment = (flags.apply base).mapError Stop.defect := by
    simp only [Program.settings, hwords, hbase]
    cases flags.apply base <;> rfl
  have hunknown {environment : Environment} {name : Text}
      (hrefused : Settings.ofEnvironment environment = .error ⟨name⟩) :
      Program.settings dashes words environment = .error (.usage (.environment ⟨name⟩)) := by
    simp only [Program.settings, hwords, hrefused]
  have happart (base : Settings) (name : Text) :
      (flags.apply base).mapError Stop.defect ≠ .error (.usage (.environment ⟨name⟩)) := by
    cases flags.apply base <;> simp [Except.mapError]
  rcases Settings.ofEnvironment_cases environment with ⟨base, hbase, hnone⟩ | ⟨name, hrefused, hsome⟩
  · rcases Settings.ofEnvironment_cases other with ⟨base', hbase', hnone'⟩ | ⟨name', hrefused', hsome'⟩
    · rw [hknown hbase, hknown hbase', happly base base' hbase hbase', hnone, hnone']
      simp
    · rw [hknown hbase, hunknown hrefused', hnone, hsome']
      simpa using happart base name'
  · rcases Settings.ofEnvironment_cases other with ⟨base', hbase', hnone'⟩ | ⟨name', hrefused', hsome'⟩
    · rw [hunknown hrefused, hknown hbase', hsome, hnone']
      simpa using (happart base' name).symm
    · rw [hunknown hrefused, hunknown hrefused', hsome, hsome']
      simp

/-- The last use of each flag of a command line that is accepted decides on its setting. Of the
environment's variables that are overridden, only an unknown dialect makes a difference: the settings
are the same if and only if the environments ask for the same unknown dialect or both for a known one. -/
theorem settings_override {words : List Text} (hwords : parse dashes words = .ok flags) :
    (∃ uses, Writes dashes words uses) ∧ ∀ uses, Writes dashes words uses →
      (∀ environment settings, Program.settings dashes words environment = .ok settings →
        ∀ first use rest, uses = first ++ use :: rest →
          (∀ later ∈ rest, later.flag ≠ use.flag) → settings.Shows use) ∧
      ∀ environment other, AgreeBut uses environment other →
        (Program.settings dashes words environment = Program.settings dashes words other ↔
          Settings.unknownDialect? environment = Settings.unknownDialect? other) ∧
        ((∀ use ∈ uses, use.flag ≠ .dialect) →
          Program.settings dashes words environment = Program.settings dashes words other) := by
  constructor
  · obtain ⟨uses, huses, -⟩ := parse_eq_ok_iff.mp hwords
    exact ⟨uses, huses⟩
  intro uses huses
  have hflags := huses.parse_eq.symm.trans hwords
  constructor
  · rintro environment settings hsettings first use rest rfl hlast
    simp only [Program.settings, hwords] at hsettings
    split at hsettings
    · cases hsettings
    · split at hsettings
      · cases hsettings
      · rename_i happly
        obtain rfl := Except.ok.inj hsettings
        exact (Flags.holds_of_last hflags (huses.fitting use (by simp)) hlast).shows happly
  intro environment other hagree
  have hiff : Program.settings dashes words environment = Program.settings dashes words other ↔
      Settings.unknownDialect? environment = Settings.unknownDialect? other :=
    settings_eq_iff hwords fun _ _ => apply_eq_of_agreeBut huses.fitting hflags hagree
  refine ⟨hiff, fun hnone => hiff.mpr ?_⟩
  have hlookup := hagree "WEBPLAY_SYNTAX" (by decide) fun use huse hoverrides =>
    hnone use huse (Flag.variableName?_injective hoverrides rfl)
  rw [Settings.unknownDialect?, Settings.text_congr hlookup, Settings.unknownDialect?]

/-- Settings that are given on the command line, shortened, attached and more than once. -/
theorem settings_override_shortened :
    parse .keep ["--pro=a", "--in", "p.txt", "--d", "--proxy", "-5"] =
        .ok ⟨some (.value "p.txt"), none, true, some (.value "-5"), none, false⟩ ∧
      Writes .keep ["--pro=a", "--in", "p.txt", "--d", "--proxy", "-5"]
        [⟨.proxy, some (.value "a")⟩, ⟨.input, some (.value "p.txt")⟩, ⟨.debug, none⟩,
          ⟨.proxy, some (.value "-5")⟩] ∧
      Program.settings .keep ["--pro=a", "--in", "p.txt", "--d", "--proxy", "-5"]
          [("WEBPLAY_PROXY", "b"), ("WEBPLAY_DEBUG", "off"), ("WEBPLAY_REPORT", "r.xml")] =
        Program.settings .keep ["--pro=a", "--in", "p.txt", "--d", "--proxy", "-5"]
          [("WEBPLAY_REPORT", "r.xml"), ("WEBPLAY_PLAYBOOK", "q.txt")] := by
  have hwords : parse .keep ["--pro=a", "--in", "p.txt", "--d", "--proxy", "-5"] =
      .ok ⟨some (.value "p.txt"), none, true, some (.value "-5"), none, false⟩ := by
    decide +kernel
  have hfits (flag : Flag) (text : Text)
      (h : Flag.begunBy text.toList = [flag]) : flag.Fits text := Flag.begunBy_eq_singleton.mp h
  have hplain : IsOperand "p.txt" := .inl (by decide)
  have hnumber : IsOperand "-5" := classify_eq_operand.mp (by decide)
  have hwrites : Writes .keep ["--pro=a", "--in", "p.txt", "--d", "--proxy", "-5"]
      [⟨.proxy, some (.value "a")⟩, ⟨.input, some (.value "p.txt")⟩, ⟨.debug, none⟩,
        ⟨.proxy, some (.value "-5")⟩] :=
    .attached (hfits .proxy "--pro" (by decide)) rfl (.inl rfl) <|
      .separate (hfits .input "--in" (by decide)) rfl hplain <|
      .switch (hfits .debug "--d" (by decide)) rfl <|
      .separate (hfits .proxy "--proxy" (by decide)) rfl hnumber .nil
  obtain ⟨-, hoverride⟩ := settings_override hwords
  obtain ⟨-, hsame⟩ := hoverride _ hwrites
  exact ⟨hwords, hwrites, (hsame _ _ (by decide +kernel)).2 (by simp)⟩

/-- An unknown dialect of the environment is refused although the command line overrides it. -/
theorem unknown_dialect_is_not_overridden :
    parse .keep ["--syntax", "literal"] = .ok { Flags.none with dialect := some (.value .literal) } ∧
      Writes .keep ["--syntax", "literal"] [⟨.dialect, some (.value "literal")⟩] ∧
      AgreeBut [⟨.dialect, some (.value "literal")⟩] [] [("WEBPLAY_SYNTAX", "yaml")] ∧
      Program.settings .keep ["--syntax", "literal"] [] = .ok Settings.default ∧
      Program.settings .keep ["--syntax", "literal"] [("WEBPLAY_SYNTAX", "yaml")] =
        .error (.usage (.environment ⟨"yaml"⟩)) := by
  have hfits : Flag.Fits .dialect "--syntax" := Flag.begunBy_eq_singleton.mp (by decide)
  exact ⟨rfl, .separate hfits rfl (.inl (by decide)) .nil, by decide +kernel, rfl, rfl⟩

end Agree

end CommandLine

end Playbook
