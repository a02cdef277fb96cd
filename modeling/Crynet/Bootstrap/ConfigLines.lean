import Crynet.Bootstrap.BootstrapConfig
import Crynet.Foundation.Settings

/-!
# Reading a configuration line by line

The loop of the parser cuts its text at line breaks and reads one directive
after the other.  So what it reads from a text depends on the directives of the
text only, and what it reads from two texts together is what it reads from the
first, changed by the second.
-/

namespace Crynet

namespace BootstrapConfig

open Text

/-- The lines of a text that are neither blank nor comments, trimmed. -/
def directives (configText : Text) : List Text :=
  ((configText.splitOn newline).map trimCopy).filter isDirective

private theorem directives_append (first second : Text) :
    directives (first ++ newline :: second) =
      directives first ++ directives second := by
  unfold directives
  rw [List.splitOn_append_cons_self, List.map_append, List.filter_append]

private theorem directives_line {line : Text} (unbroken : newline ∉ line) :
    directives line =
      if isDirective (trimCopy line) = true then [trimCopy line] else [] := by
  unfold directives
  rw [List.splitOn_eq_singleton unbroken, List.map_singleton]
  exact List.filter_singleton.trans (Bool.cond_eq_ite _ _ _)

/-- Spaces around a line are not part of it. -/
theorem trimCopy_padded {before after : Text} (line : Text)
    (indented : ∀ character ∈ before, isSpace character = true)
    (trailing : ∀ character ∈ after, isSpace character = true) :
    trimCopy (before ++ line ++ after) = trimCopy line := by
  unfold trimCopy
  rw [List.append_assoc, List.dropWhile_append_of_pos indented]
  rw [List.dropWhile_append]
  cases rest : line.dropWhile isSpace with
  | nil =>
      have gone : after.dropWhile isSpace = [] :=
        List.dropWhile_eq_nil_iff.mpr trailing
      simp [gone]
  | cons character characters =>
      simp only [List.isEmpty_cons, Bool.false_eq_true, if_false]
      unfold List.rdropWhile
      rw [List.reverse_append, List.dropWhile_append_of_pos]
      intro other member
      exact trailing other (List.mem_reverse.mp member)

/-- Indentation, trailing spaces, a carriage return before the line break and
the line break at the end make no difference. -/
theorem directives_padded {before line after : Text} (rest : Text)
    (unbroken : newline ∉ before ++ line ++ after)
    (indented : ∀ character ∈ before, isSpace character = true)
    (trailing : ∀ character ∈ after, isSpace character = true) :
    directives (before ++ line ++ after ++ newline :: rest) =
      directives (line ++ newline :: rest) ∧
    directives (before ++ line ++ after) = directives line := by
  have bare : newline ∉ line := by
    intro member
    apply unbroken
    simp [member]
  have same : directives (before ++ line ++ after) = directives line := by
    rw [directives_line unbroken, directives_line bare,
      trimCopy_padded line indented trailing]
  rw [directives_append, directives_append, same]
  exact ⟨rfl, rfl⟩

theorem directives_final (configText : Text) :
    directives (configText ++ [newline]) = directives configText := by
  rw [directives_append]
  exact List.append_nil _

private theorem readRaw_eq (config : BootstrapConfig) {line : Text}
    (unbroken : newline ∉ line) :
    (if isDirective (trimCopy line) = true then
        config.readLine (trimCopy line)
      else some config) =
      (directives line).foldlM readLine config := by
  rw [directives_line unbroken]
  split
  · exact (bind_pure _).symm
  · rfl

private theorem findIdx_unbroken {line : Text} (unbroken : newline ∉ line) :
    line.findIdx? (· == newline) = none := by
  apply List.findIdx?_eq_none_iff.mpr
  intro character member
  apply beq_false_of_ne
  intro same
  rw [same] at member
  exact unbroken member

/-- The loop reads the directives of its text in order. -/
theorem readLines_eq (fuel : Nat) (config : BootstrapConfig)
    (configText : Text) (enough : configText.length ≤ fuel) :
    readLines fuel config configText =
      (directives configText).foldlM readLine config := by
  induction fuel generalizing config configText with
  | zero =>
      have empty := List.eq_nil_of_length_eq_zero (Nat.le_zero.mp enough)
      subst empty
      rfl
  | succ fuel induction =>
      by_cases empty : configText = []
      · subst empty
        rfl
      · simp only [readLines, if_neg empty]
        by_cases broken : newline ∈ configText
        · obtain ⟨line, rest, rfl, unbroken⟩ :=
            List.eq_append_cons_of_mem broken
          have found : (line ++ newline :: rest).findIdx? (· == newline) =
              some line.length := by
            simp [List.findIdx?_append, List.findIdx?_cons,
              findIdx_unbroken unbroken]
          simp only [found, List.take_left, readRaw_eq config unbroken,
            directives_append, List.foldlM_append]
          cases (directives line).foldlM readLine config with
          | none => rfl
          | some next =>
              have left : (line ++ newline :: rest).drop (line.length + 1) =
                  rest := by
                simp
              simp only [left]
              apply induction
              rw [List.length_append, List.length_cons] at enough
              omega
        · simp only [findIdx_unbroken broken, readRaw_eq config broken]
          cases (directives configText).foldlM readLine config with
          | none => rfl
          | some next => rfl

private theorem fromText_eq (configText : Text) :
    fromText configText =
      match (directives configText).foldlM readLine {} with
      | none => none
      | some config => if config.services = [] then none else some config := by
  rw [← readLines_eq _ _ _ (Nat.le_refl _)]
  rfl

end BootstrapConfig

/-- What the directives are about. -/
inductive ConfigKey where
  | service
  | timeout
  | enabled
  | loggerAlert
  | checkCycles
  deriving DecidableEq, Repr

/-- The beginning of a directive. -/
def ConfigKey.text : ConfigKey → Text
  | .service => .ofAscii "service "
  | .timeout => .ofAscii "timeout_ms "
  | .enabled => .ofAscii "monitor.enabled "
  | .loggerAlert => .ofAscii "monitor.logger_alert "
  | .checkCycles => .ofAscii "monitor.check_cycles "

/-- What a directive says. -/
inductive Directive where
  | service (value : BootstrapServiceConfig)
  | timeout (value : Int64)
  | enabled (value : Bool)
  | loggerAlert (value : Bool)
  | checkCycles (value : UInt64)
  deriving DecidableEq, Repr

theorem Text.startsWith_iff {text pre : Text} :
    text.startsWith pre = true ↔ pre <+: text := by
  rw [Text.startsWith, List.prefix_iff_eq_take, Bool.and_eq_true,
    decide_eq_true_eq, beq_iff_eq]
  constructor
  · exact fun starts => starts.2.symm
  · intro same
    refine ⟨?_, same.symm⟩
    rw [same]
    exact List.length_take_le' _ _

/-- No directive begins like another one. -/
theorem ConfigKey.unique {first second : ConfigKey} {line : Text}
    (one : line.startsWith first.text = true)
    (other : line.startsWith second.text = true) : first = second := by
  have apart : ∀ first second : ConfigKey,
      first.text.isPrefixOf second.text = true → first = second := by
    intro first second
    cases first <;> cases second <;> decide
  rcases List.prefix_or_prefix_of_prefix (Text.startsWith_iff.mp one)
      (Text.startsWith_iff.mp other) with before | after
  · exact apart first second (List.isPrefixOf_iff_prefix.mpr before)
  · exact (apart second first (List.isPrefixOf_iff_prefix.mpr after)).symm

namespace Directive

def key : Directive → ConfigKey
  | .service _ => .service
  | .timeout _ => .timeout
  | .enabled _ => .enabled
  | .loggerAlert _ => .loggerAlert
  | .checkCycles _ => .checkCycles

def service? : Directive → Option BootstrapServiceConfig
  | .service value => some value
  | _ => none

def timeout? : Directive → Option Int64
  | .timeout value => some value
  | _ => none

def enabled? : Directive → Option Bool
  | .enabled value => some value
  | _ => none

def loggerAlert? : Directive → Option Bool
  | .loggerAlert value => some value
  | _ => none

def checkCycles? : Directive → Option UInt64
  | .checkCycles value => some value
  | _ => none

end Directive

namespace BootstrapConfig

open Text

/-- A directive changes a configuration. -/
def change (config : BootstrapConfig) (directive : Directive) :
    BootstrapConfig :=
  { services := config.services ++ directive.service?.toList
    timeout := directive.timeout?.getD config.timeout
    monitor :=
      { enabled := directive.enabled?.getD config.monitor.enabled
        loggerAlertEnabled :=
          directive.loggerAlert?.getD config.monitor.loggerAlertEnabled
        checkCycles :=
          directive.checkCycles?.getD config.monitor.checkCycles } }

/-- The directive of a line. -/
def directive (line : Text) : Option Directive :=
  if startsWith line (ofAscii "service ") = true then
    (readService line).map .service
  else if startsWith line (ofAscii "timeout_ms ") = true then
    (fromChars (line.drop 11)).map fun value => .timeout value.toInt64
  else if startsWith line (ofAscii "monitor.enabled ") = true then
    (parseBool (trimCopy (line.drop 16))).map .enabled
  else if startsWith line (ofAscii "monitor.logger_alert ") = true then
    (parseBool (trimCopy (line.drop 21))).map .loggerAlert
  else if startsWith line (ofAscii "monitor.check_cycles ") = true then
    (fromChars (line.drop 21)).map .checkCycles
  else
    none

private theorem startsWith_key {line : Text} {read : Directive}
    (found : directive line = some read) :
    startsWith line read.key.text = true := by
  unfold directive at found
  split at found
  · rename_i starts
    obtain ⟨_, _, rfl⟩ := Option.map_eq_some_iff.mp found
    exact starts
  · split at found
    · rename_i starts
      obtain ⟨_, _, rfl⟩ := Option.map_eq_some_iff.mp found
      exact starts
    · split at found
      · rename_i starts
        obtain ⟨_, _, rfl⟩ := Option.map_eq_some_iff.mp found
        exact starts
      · split at found
        · rename_i starts
          obtain ⟨_, _, rfl⟩ := Option.map_eq_some_iff.mp found
          exact starts
        · split at found
          · rename_i starts
            obtain ⟨_, _, rfl⟩ := Option.map_eq_some_iff.mp found
            exact starts
          · cases found

/-- A directive is about what its line begins with. -/
theorem startsWith_iff_key {line : Text} {read : Directive}
    (found : directive line = some read) (key : ConfigKey) :
    startsWith line key.text = true ↔ read.key = key := by
  constructor
  · intro starts
    exact ConfigKey.unique (startsWith_key found) starts
  · rintro rfl
    exact startsWith_key found

private theorem change_of_setting (config : BootstrapConfig) (directive : Directive)
    (setting : directive.service? = none) :
    config.change directive =
      { config with
        timeout := directive.timeout?.getD config.timeout
        monitor :=
          { enabled := directive.enabled?.getD config.monitor.enabled
            loggerAlertEnabled :=
              directive.loggerAlert?.getD config.monitor.loggerAlertEnabled
            checkCycles :=
              directive.checkCycles?.getD config.monitor.checkCycles } } := by
  rw [change, setting, Option.toList_none, List.append_nil]

/-- Whether a line can be read does not depend on what has been read before,
and neither does what it changes. -/
theorem readLine_eq (config : BootstrapConfig) (line : Text) :
    config.readLine line = (directive line).map config.change := by
  unfold readLine directive
  by_cases service : startsWith line (ofAscii "service ") = true
  · simp only [if_pos service]
    cases readService line with
    | none => rfl
    | some service => rfl
  simp only [if_neg service]
  by_cases timeout : startsWith line (ofAscii "timeout_ms ") = true
  · simp only [if_pos timeout]
    cases fromChars (line.drop 11) with
    | none => rfl
    | some value =>
        exact congrArg some
          (config.change_of_setting (.timeout value.toInt64) rfl).symm
  simp only [if_neg timeout]
  by_cases enabled : startsWith line (ofAscii "monitor.enabled ") = true
  · simp only [if_pos enabled]
    cases parseBool (trimCopy (line.drop 16)) with
    | none => rfl
    | some value =>
        exact congrArg some
          (config.change_of_setting (.enabled value) rfl).symm
  simp only [if_neg enabled]
  by_cases alert : startsWith line (ofAscii "monitor.logger_alert ") = true
  · simp only [if_pos alert]
    cases parseBool (trimCopy (line.drop 21)) with
    | none => rfl
    | some value =>
        exact congrArg some
          (config.change_of_setting (.loggerAlert value) rfl).symm
  simp only [if_neg alert]
  by_cases cycles : startsWith line (ofAscii "monitor.check_cycles ") = true
  · simp only [if_pos cycles]
    cases fromChars (line.drop 21) with
    | none => rfl
    | some value =>
        exact congrArg some
          (config.change_of_setting (.checkCycles value) rfl).symm
  · simp only [if_neg cycles]
    rfl

/-- The directives of a text, if all of them can be read. -/
def readDirectives (configText : Text) : Option (List Directive) :=
  (directives configText).mapM directive

/-- A text is accepted when all its directives can be read and one of them is a
service; then each of them has changed what the ones before it made. -/
theorem fromText_some_iff {configText : Text} {config : BootstrapConfig} :
    fromText configText = some config ↔
      ∃ read, readDirectives configText = some read ∧
        config = read.foldl change {} ∧ config.services ≠ [] := by
  have folded : ∀ (lines : List Text) (start : BootstrapConfig),
      lines.foldlM readLine start =
        (lines.mapM directive).map fun read => read.foldl change start := by
    intro lines
    induction lines with
    | nil => exact fun _ => rfl
    | cons line lines induction =>
        intro start
        rw [List.foldlM_cons, readLine_eq, List.mapM_cons]
        cases directive line with
        | none => rfl
        | some first =>
            show lines.foldlM readLine (start.change first) = _
            rw [induction]
            cases lines.mapM directive with
            | none => rfl
            | some rest => rfl
  rw [fromText_eq, folded, ← readDirectives]
  cases readDirectives configText with
  | none => simp
  | some read =>
      simp only [Option.map_some, Option.some.injEq, exists_eq_left']
      split
      · rename_i empty
        constructor
        · exact nofun
        · rintro ⟨rfl, more⟩
          exact absurd empty more
      · rename_i more
        simp only [Option.some.injEq]
        constructor
        · rintro rfl
          exact ⟨rfl, more⟩
        · exact fun same => same.1.symm

variable {configText : Text} {config : BootstrapConfig}

/-- A text sets a value when one of its directives begins like this. -/
def sets (configText key : Text) : Bool :=
  (directives configText).any fun line => startsWith line key

theorem readDirectives_some_iff {read : List Directive} :
    readDirectives configText = some read ↔
      (∀ line ∈ directives configText, (directive line).isSome = true) ∧
        read = (directives configText).filterMap directive :=
  Settings.mapM_some_iff

theorem sets_iff {read : List Directive}
    (readable : readDirectives configText = some read) (key : ConfigKey) :
    sets configText key.text = true ↔ ∃ change ∈ read, change.key = key := by
  obtain ⟨all, rfl⟩ := readDirectives_some_iff.mp readable
  rw [sets, List.any_eq_true]
  constructor
  · rintro ⟨line, member, starts⟩
    obtain ⟨change, found⟩ := Option.isSome_iff_exists.mp (all line member)
    exact ⟨change, List.mem_filterMap.mpr ⟨line, member, found⟩,
      (startsWith_iff_key found key).mp starts⟩
  · rintro ⟨change, member, about⟩
    obtain ⟨line, listed, found⟩ := List.mem_filterMap.mp member
    exact ⟨line, listed, (startsWith_iff_key found key).mpr about⟩

/-- A setting of two texts, the second of which may overwrite the first. -/
theorem last_of_two {Value : Type} {value : Directive → Option Value}
    {key : ConfigKey}
    (about : ∀ change : Directive,
      (value change).isSome = true ↔ change.key = key)
    {second : Text} {before after : List Directive}
    (readable : readDirectives second = some after) (default : Value) :
    (Settings.last value (before ++ after)).getD default =
      if sets second key.text = true then
        (Settings.last value after).getD default
      else (Settings.last value before).getD default := by
  have overwritten : sets second key.text = true ↔
      (Settings.last value after).isSome = true := by
    rw [sets_iff readable, Settings.last_isSome_iff]
    simp only [about]
  rw [Settings.last_append]
  by_cases set : (Settings.last value after).isSome = true
  · rw [if_pos (overwritten.mpr set)]
    obtain ⟨later, found⟩ := Option.isSome_iff_exists.mp set
    rw [found]
    rfl
  · rw [if_neg (fun more => set (overwritten.mp more))]
    rw [Option.not_isSome_iff_eq_none.mp set]
    rfl

theorem foldl_change (read : List Directive) (start : BootstrapConfig) :
    read.foldl change start =
      { services := start.services ++ read.filterMap Directive.service?
        timeout := (Settings.last Directive.timeout? read).getD start.timeout
        monitor :=
          { enabled := (Settings.last Directive.enabled? read).getD
              start.monitor.enabled
            loggerAlertEnabled :=
              (Settings.last Directive.loggerAlert? read).getD
                start.monitor.loggerAlertEnabled
            checkCycles := (Settings.last Directive.checkCycles? read).getD
              start.monitor.checkCycles } } := by
  have services := @Settings.foldl_collected _ _ _ change services _
    (fun _ _ => rfl) read start
  have timeout := @Settings.foldl_last _ _ _ change timeout _
    (fun _ _ => rfl) read start
  have enabled := @Settings.foldl_last _ _ _ change
    (fun config => config.monitor.enabled) _ (fun _ _ => rfl) read start
  have loggerAlert := @Settings.foldl_last _ _ _ change
    (fun config => config.monitor.loggerAlertEnabled) _ (fun _ _ => rfl) read
    start
  have checkCycles := @Settings.foldl_last _ _ _ change
    (fun config => config.monitor.checkCycles) _ (fun _ _ => rfl) read start
  rw [← services, ← timeout, ← enabled, ← loggerAlert, ← checkCycles]

private theorem readDirectives_append {first second : Text}
    {before after : List Directive}
    (one : readDirectives first = some before)
    (other : readDirectives second = some after) :
    readDirectives (first ++ newline :: second) = some (before ++ after) := by
  obtain ⟨all, rfl⟩ := readDirectives_some_iff.mp one
  obtain ⟨rest, rfl⟩ := readDirectives_some_iff.mp other
  apply readDirectives_some_iff.mpr
  rw [directives_append, List.filterMap_append]
  refine ⟨?_, rfl⟩
  intro line member
  rcases List.mem_append.mp member with listed | listed
  · exact all line listed
  · exact rest line listed

private theorem readLine_services {start next : BootstrapConfig} {line : Text}
    (read : start.readLine line = some next) :
    next.services.length ≤ start.services.length + 1 := by
  rw [readLine_eq] at read
  obtain ⟨change, _, rfl⟩ := Option.map_eq_some_iff.mp read
  cases change with
  | service value => exact (List.length_append).le
  | _ => exact (List.length_append).le.trans (Nat.le_succ _)

private theorem readLines_services {fuel : Nat} {start next : BootstrapConfig}
    {configText : Text} (read : readLines fuel start configText = some next) :
    next.services.length ≤ start.services.length + fuel := by
  induction fuel generalizing start configText with
  | zero =>
      cases read
      exact Nat.le_refl _
  | succ fuel induction =>
      have one : ∀ {line : Text} {middle : BootstrapConfig},
          (if isDirective line = true then start.readLine line
            else some start) = some middle →
          middle.services.length ≤ start.services.length + 1 := by
        intro line middle found
        split at found
        · exact readLine_services found
        · cases found
          exact Nat.le_succ _
      simp only [readLines] at read
      by_cases empty : configText = []
      · rw [if_pos empty] at read
        cases read
        exact Nat.le_add_right _ _
      · rw [if_neg empty] at read
        cases lineBreak : configText.findIdx? (· == newline) with
        | none =>
            simp only [lineBreak] at read
            split at read
            · cases read
            · rename_i middle found
              cases read
              have added := one found
              omega
        | some index =>
            simp only [lineBreak] at read
            split at read
            · cases read
            · rename_i middle found
              have added := one found
              have rest := induction read
              omega

/-- A text has no more services than bytes. -/
theorem fromText_services (read : fromText configText = some config) :
    config.services.length ≤ configText.length := by
  unfold fromText at read
  split at read
  · cases read
  · rename_i lines
    split at read
    · cases read
    · cases read
      have counted := readLines_services lines
      rwa [List.length_nil, Nat.zero_add] at counted

private theorem readService_named {line : Text} {service : BootstrapServiceConfig}
    (read : readService line = some service) : service.name ≠ [] := by
  simp only [readService] at read
  split at read
  · cases read
  · split at read
    all_goals
      split at read
      · cases read
      · rename_i named
        cases read
        exact named

/-- No service of a text is without a name. -/
theorem fromText_named (read : fromText configText = some config) :
    ∀ service ∈ config.services, service.name ≠ [] := by
  obtain ⟨changes, readable, rfl, _⟩ := fromText_some_iff.mp read
  obtain ⟨_, rfl⟩ := readDirectives_some_iff.mp readable
  rw [foldl_change]
  intro service member
  obtain ⟨change, listed, value⟩ := List.mem_filterMap.mp member
  obtain ⟨line, _, found⟩ := List.mem_filterMap.mp listed
  cases change with
  | service other =>
      cases value
      unfold directive at found
      split at found
      · obtain ⟨_, named, ⟨⟩⟩ := Option.map_eq_some_iff.mp found
        exact readService_named named
      · repeat
          split at found
          · obtain ⟨_, _, ⟨⟩⟩ := Option.map_eq_some_iff.mp found
        cases found
  | _ => cases value

/-- What is read from a text depends on its directives only, so blank lines,
comments, indentation, trailing spaces and the ends of lines do not matter.
Two accepted texts, one after the other, are accepted: their services add up,
and the second overwrites what it sets. -/
theorem fromText_lines (first second : Text) :
    (directives first = directives second →
        fromText first = fromText second) ∧
      ∀ before after, fromText first = some before →
        fromText second = some after →
          fromText (first ++ newline :: second) = some
            { services := before.services ++ after.services
              timeout :=
                if sets second (ofAscii "timeout_ms ") = true then
                  after.timeout
                else before.timeout
              monitor :=
                { enabled :=
                    if sets second (ofAscii "monitor.enabled ") = true then
                      after.monitor.enabled
                    else before.monitor.enabled
                  loggerAlertEnabled :=
                    if sets second (ofAscii "monitor.logger_alert ") = true then
                      after.monitor.loggerAlertEnabled
                    else before.monitor.loggerAlertEnabled
                  checkCycles :=
                    if sets second (ofAscii "monitor.check_cycles ") = true then
                      after.monitor.checkCycles
                    else before.monitor.checkCycles } } := by
  constructor
  · intro same
    rw [fromText_eq, fromText_eq, same]
  · intro before after one other
    obtain ⟨read, readable, shape, served⟩ := fromText_some_iff.mp one
    obtain ⟨more, readableMore, shapeMore, _⟩ := fromText_some_iff.mp other
    apply fromText_some_iff.mpr
    refine ⟨read ++ more, readDirectives_append readable readableMore, ?_, ?_⟩
    · have timeout := @last_of_two _ Directive.timeout? .timeout
        (fun change => by cases change <;> simp [Directive.timeout?, Directive.key])
        _ read _ readableMore 0
      have enabled := @last_of_two _ Directive.enabled? .enabled
        (fun change => by cases change <;> simp [Directive.enabled?, Directive.key])
        _ read _ readableMore false
      have loggerAlert := @last_of_two _ Directive.loggerAlert? .loggerAlert
        (fun change => by
          cases change <;> simp [Directive.loggerAlert?, Directive.key])
        _ read _ readableMore true
      have checkCycles := @last_of_two _ Directive.checkCycles? .checkCycles
        (fun change => by
          cases change <;> simp [Directive.checkCycles?, Directive.key])
        _ read _ readableMore 1
      rw [shape, shapeMore, foldl_change, foldl_change, foldl_change]
      simp only [timeout, enabled, loggerAlert, checkCycles,
        List.filterMap_append, List.nil_append, ConfigKey.text]
      rfl
    · simp [served]

/-- The second text adds a service and overwrites a setting. -/
theorem fromText_lines_overwritten :
    fromText (ofAscii "service a x\ntimeout_ms 5\nmonitor.enabled on" ++
        newline :: ofAscii "\r\n # more\n\tservice b\r\ntimeout_ms 7") =
      some
        { services :=
            [{ name := ofAscii "a", bootPayload := ofAscii "x" },
              { name := ofAscii "b" }]
          timeout := 7
          monitor := { enabled := true } } :=
  (fromText_lines (ofAscii "service a x\ntimeout_ms 5\nmonitor.enabled on")
    (ofAscii "\r\n # more\n\tservice b\r\ntimeout_ms 7")).2
      { services := [{ name := ofAscii "a", bootPayload := ofAscii "x" }]
        timeout := 5
        monitor := { enabled := true } }
      { services := [{ name := ofAscii "b" }], timeout := 7 }
      (by decide) (by decide)

end BootstrapConfig

end Crynet
