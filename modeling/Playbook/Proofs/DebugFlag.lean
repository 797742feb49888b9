import Playbook.Program
import Playbook.Proofs.CommandLineGrammar

/-! # The flag for debugging

The flag for debugging can stand wherever a flag can stand: before any two dashes, and not where another
flag has no value yet. Whatever the other words are, a command line with it is refused just if the same
line without it is, and for the same reason; and all that it says more is to debug. -/

namespace Playbook

/-- The settings of a run that debugs. -/
def Settings.debugging (settings : Settings) : Settings := { settings with debug := true }

theorem Settings.debug_of_environment {environment : Environment} {base : Settings}
    (h : ofEnvironment environment = .ok base) :
    base.debug = switch environment "WEBPLAY_DEBUG" default.debug := by
  rw [ofEnvironment] at h
  split at h
  · cases h
  · obtain rfl := Except.ok.inj h
    rfl

namespace CommandLine

variable {dashes : DashRule} {words before : List Text} {tagged rest : List (Text × Word)}

/-- Flags that also say to debug. -/
def Flags.debugging (flags : Flags) : Flags := { flags with debug := true }

theorem Flags.give_debugging (flags : Flags) (given : Given Text) (flag : Flag) :
    flags.debugging.give given flag = Flags.debugging <$> flags.give given flag := by
  cases flag with
  | dialect =>
      simp only [give]
      cases givenDialect given <;> rfl
  | help | input | debug | proxy | report | strict => rfl

theorem Flags.switch_debugging (flags : Flags) (flag : Flag) :
    flags.debugging.switch flag = Flags.debugging <$> flags.switch flag := by
  cases flag <;> rfl

theorem Flags.apply_debugging (flags : Flags) (settings : Settings) :
    flags.debugging.apply settings = Settings.debugging <$> flags.apply settings := by
  have hdialect : flags.debugging.dialect = flags.dialect := rfl
  have hplaybook : flags.debugging.playbook = flags.playbook := rfl
  rw [apply, apply, hdialect, hplaybook]
  cases override settings.dialect .noDialect flags.dialect with
  | error fault => rfl
  | ok dialect => cases override settings.playbook .noPath flags.playbook <;> rfl

theorem Flags.debug_of_apply {flags : Flags} {base settings : Settings}
    (h : flags.apply base = .ok settings) : settings.debug = (flags.debug || base.debug) := by
  rw [apply] at h
  obtain ⟨dialect, -, h⟩ := bind_eq_ok.mp h
  obtain ⟨playbook, -, h⟩ := bind_eq_ok.mp h
  obtain rfl := Except.ok.inj h
  rfl

/-- A flag with a value needs an operand after it. -/
theorem take_missing {flag : Flag} (htakes : flag.takesValue = true) (flags : Flags)
    (extras : List Text) (word : Text) (short : Bool)
    (hrest : ∀ value more, rest = (value, .operand) :: more → False) :
    take dashes flags extras ((word, .flag flag short .none) :: rest) =
      .error (.usage (.missingValue flag)) := by
  match rest with
  | [] | (_, .separator) :: _ | (_, .unknown) :: _ | (_, .flag ..) :: _ => simp [take, htakes]
  | (value, .operand) :: more => exact (hrest value more rfl).elim

/-- A word that is no flag means nothing by itself. -/
theorem take_stray {found : Word}
    (hfound : ∀ flag short attached, found = .flag flag short attached → False) (flags : Flags)
    (extras : List Text) (word : Text) (rest : List (Text × Word)) :
    take dashes flags extras ((word, found) :: rest) = take dashes flags (extras ++ [word]) rest := by
  match found with
  | .operand | .separator | .unknown => rfl
  | .flag flag short attached => exact (hfound flag short attached rfl).elim

/-- What flags say that are taken after the flag for debugging is what they say without it, and to
debug. -/
theorem take_debugging (flags : Flags) (extras : List Text) (tagged : List (Text × Word)) :
    take dashes flags.debugging extras tagged = Flags.debugging <$> take dashes flags extras tagged := by
  fun_induction take dashes flags extras tagged with
  | case1 flags extras hempty =>
      rw [take, if_pos hempty]
      rfl
  | case2 flags extras hextras =>
      rw [take, if_neg hextras]
      rfl
  | case3 flags extras word flag short rest htakes value ih
  | case4 flags extras word flag short htakes value rest ih =>
      rw [take, if_pos htakes, Flags.give_debugging, bind_map_left, map_bind]
      exact bind_congr ih
  | case5 flags extras word flag short rest htakes hrest =>
      rw [take_missing htakes _ _ _ _ hrest]
      rfl
  | case6 flags extras word flag short rest hswitch value =>
      simp only [take, hswitch]
      rfl
  | case7 flags extras word flag short rest hswitch ih =>
      rw [take_switch (by simpa using hswitch), Flags.switch_debugging, bind_map_left, map_bind]
      exact bind_congr ih
  | case8 flags extras word found rest hfound ih =>
      rw [take_stray hfound]
      exact ih

/-- Words after which a flag can stand: they hold no separator, and the last one is no flag that needs a
value. -/
def Settled (words : List Text) : Prop :=
  ("--" : Text) ∉ words ∧ ∀ word ∈ words.getLast?, ∀ flag short,
    classify word = .ok (.flag flag short none) → flag.takesValue = false

/-- Words that have been told apart and do not end in a flag that needs a value. -/
def Closed (tagged : List (Text × Word)) : Prop :=
  ∀ word flag short, tagged.getLast? = some (word, .flag flag short none) → flag.takesValue = false

theorem Closed.tail {first : Text × Word} (h : Closed (first :: tagged)) : Closed tagged :=
  fun word flag short hlast => h word flag short (by rw [List.getLast?_cons, hlast]; rfl)

/-- Words without a separator are told apart whatever stands after them. -/
theorem classifyAll_append (h : ("--" : Text) ∉ before) (words : List Text) :
    classifyAll (before ++ words) = do
      let first ← classifyAll before
      let last ← classifyAll words
      return first ++ last := by
  induction before with
  | nil => cases hwords : classifyAll words <;> rw [List.nil_append, hwords] <;> rfl
  | cons word before ih =>
      obtain ⟨hword, hbefore⟩ := not_or.mp (List.mem_cons.not.mp h)
      rw [List.cons_append, classifyAll, classifyAll, if_neg (Ne.symm hword), if_neg (Ne.symm hword),
        ih hbefore]
      cases classify word <;> cases classifyAll before <;> cases classifyAll words <;> rfl

theorem Settled.closed (h : Settled words) (hwords : classifyAll words = .ok tagged) : Closed tagged := by
  rcases List.eq_nil_or_concat words with rfl | ⟨before, word, rfl⟩
  · obtain rfl := Except.ok.inj hwords
    simp [Closed]
  · obtain ⟨hbefore, hword⟩ : ("--" : Text) ∉ before ∧ word ≠ "--" := by
      simpa [not_or, eq_comm] using h.1
    rw [List.concat_eq_append, classifyAll_append hbefore, classifyAll, if_neg hword] at hwords
    obtain ⟨first, -, hwords⟩ := bind_eq_ok.mp hwords
    obtain ⟨last, hlast, hwords⟩ := bind_eq_ok.mp hwords
    obtain ⟨found, hfound, hlast⟩ := bind_eq_ok.mp hlast
    obtain rfl := Except.ok.inj hlast
    obtain rfl := Except.ok.inj hwords
    intro spelled flag short hflag
    rw [List.getLast?_concat] at hflag
    obtain ⟨rfl, rfl⟩ := Prod.mk.inj (Option.some.inj hflag)
    exact h.2 _ (by simp) flag short hfound

/-- The flag for debugging is taken where a flag can stand. -/
theorem take_append_debug (flags : Flags) (extras : List Text) (hclosed : Closed tagged)
    (rest : List (Text × Word)) :
    take dashes flags extras (tagged ++ (("--debug" : Text), .flag .debug false none) :: rest) =
      Flags.debugging <$> take dashes flags extras (tagged ++ rest) := by
  have hdebug (flags : Flags) (extras : List Text) :
      take dashes flags extras ((("--debug" : Text), .flag .debug false none) :: rest) =
        Flags.debugging <$> take dashes flags extras rest :=
    (take_switch rfl flags extras _ _ rest).trans (take_debugging flags extras rest)
  fun_induction take dashes flags extras tagged with
  | case1 flags extras | case2 flags extras => exact hdebug flags extras
  | case3 flags extras word flag short more htakes value ih =>
      simp only [List.cons_append, take, htakes, if_true, map_bind]
      exact bind_congr fun next => ih next hclosed.tail
  | case4 flags extras word flag short htakes value more ih =>
      simp only [List.cons_append, take, htakes, if_true, map_bind]
      exact bind_congr fun next => ih next hclosed.tail.tail
  | case5 flags extras word flag short more htakes hmore =>
      -- The value is missing already before the place where the flag is put in.
      cases more with
      | nil => cases htakes.symm.trans (hclosed word flag short rfl)
      | cons next more =>
          have hmissing (last : List (Text × Word)) :
              take dashes flags extras ((word, .flag flag short none) :: next :: more ++ last) =
                .error (.usage (.missingValue flag)) := by
            refine take_missing htakes _ _ _ _ fun value left heq => ?_
            obtain ⟨rfl, -⟩ := List.cons.inj heq
            exact hmore value more rfl
          rw [hmissing, hmissing]
          rfl
  | case6 flags extras word flag short more hswitch value =>
      simp only [List.cons_append, take, hswitch]
      rfl
  | case7 flags extras word flag short more hswitch ih =>
      rw [List.cons_append, List.cons_append, take_switch (by simpa using hswitch),
        take_switch (by simpa using hswitch), map_bind]
      exact bind_congr fun next => ih next hclosed.tail
  | case8 flags extras word found more hfound ih =>
      rw [List.cons_append, List.cons_append, take_stray hfound, take_stray hfound]
      exact ih hclosed.tail

/-- A line with the flag for debugging says what it says without the flag, and to debug. -/
theorem parse_append_debug (hbefore : Settled before) (words : List Text) :
    parse dashes (before ++ ("--debug" : Text) :: words) =
      Flags.debugging <$> parse dashes (before ++ words) := by
  have hdebug : classifyAll (("--debug" : Text) :: words) =
      (fun tagged => (("--debug" : Text), .flag .debug false none) :: tagged) <$> classifyAll words := by
    rw [classifyAll, if_neg (by decide)]
    rfl
  rw [parse, parse, classifyAll_append hbefore.1, classifyAll_append hbefore.1, hdebug]
  cases htagged : classifyAll before with
  | error fault => rfl
  | ok tagged =>
      cases classifyAll words with
      | error fault => rfl
      | ok rest => exact take_append_debug .none [] (hbefore.closed htagged) rest

end CommandLine

namespace Program

open CommandLine

variable {dashes : DashRule} {before words : List Text} {environment : Environment}

/-- So do the settings that the line makes. -/
theorem settings_append_debug (hbefore : Settled before) (words : List Text)
    (environment : Environment) :
    settings dashes (before ++ ("--debug" : Text) :: words) environment =
      Settings.debugging <$> settings dashes (before ++ words) environment := by
  rw [settings, settings, parse_append_debug hbefore]
  cases parse dashes (before ++ words) with
  | error stop => rfl
  | ok flags =>
      cases Settings.ofEnvironment environment with
      | error fault => rfl
      | ok base =>
          simp only [Functor.map, Except.map, Flags.apply_debugging]
          cases flags.apply base <;> rfl

/-- A run does not debug unless a flag or the environment says so. -/
theorem debug_of_settings {made : Settings}
    (henvironment : Settings.switch environment "WEBPLAY_DEBUG" Settings.default.debug = false)
    (hwords : ∀ flags, parse dashes words = .ok flags → flags.debug = false)
    (hmade : settings dashes words environment = .ok made) : made.debug = false := by
  rw [settings] at hmade
  split at hmade
  · cases hmade
  · rename_i flags hflags
    split at hmade
    · cases hmade
    · rename_i base hbase
      split at hmade
      · cases hmade
      · rename_i applied happly
        obtain rfl := Except.ok.inj hmade
        rw [Flags.debug_of_apply happly, hwords flags hflags, Settings.debug_of_environment hbase,
          henvironment, Bool.or_false]

end Program

end Playbook
