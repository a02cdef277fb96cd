import Crynet.Bootstrap.ConfigLines
import Mathlib.Data.Nat.Digits.Defs

/-!
# Numbers in the configuration

The values of `timeout_ms` and `monitor.check_cycles` are decimal numbers.  The
parser reads the digits at their beginning and looks neither at what follows
them nor at the sign that a timeout gets when it is stored.  So it is exact about
the texts in which no value goes on after its digits and no timeout is too
large, and about those that it rejects for another reason.
-/

namespace Crynet

namespace Text

/-- The text as a whole is a decimal numeral of this value. -/
def Denotes (text : Text) (value : Nat) : Prop :=
  text ≠ [] ∧ (∀ character ∈ text, isDigit character = true) ∧
    value = Nat.ofDigits 10
      (text.reverse.map fun character => character.toNat - 48)

/-- Reading from left to right gives the positional value. -/
theorem number_eq (digits : Text) :
    number digits = Nat.ofDigits 10
      (digits.reverse.map fun character => character.toNat - 48) := by
  induction digits using List.reverseRecOn with
  | nil => rfl
  | append_singleton digits digit induction =>
      have last : number (digits ++ [digit]) =
          10 * number digits + (digit.toNat - 48) := by
        rw [number, List.foldl_append]
        rfl
      rw [last, induction, List.reverse_append, List.reverse_singleton,
        List.singleton_append, List.map_cons, Nat.ofDigits_cons]
      exact Nat.add_comm _ _

/-- What `std::from_chars` reads are the digits at the beginning. -/
theorem fromChars_some {text : Text} {value : UInt64}
    (read : fromChars text = some value) :
    text.takeWhile isDigit ≠ [] ∧
      value.toNat = number (text.takeWhile isDigit) := by
  simp only [fromChars] at read
  split at read
  · cases read
  · rename_i fits
    rw [not_or, Nat.not_le] at fits
    cases read
    exact ⟨fits.1, UInt64.toNat_ofNat_of_lt' fits.2⟩

private theorem takeWhile_of_digits {text : Text}
    (digits : ∀ character ∈ text, isDigit character = true) :
    text.takeWhile isDigit = text :=
  List.takeWhile_eq_self_iff.mpr digits

/-- A numeral that is read is read as what it denotes. -/
theorem denotes_iff {text : Text} {value : UInt64}
    (read : fromChars text = some value)
    (digits : ∀ character ∈ text, isDigit character = true) (number : Nat) :
    text.Denotes number ↔ number = value.toNat := by
  obtain ⟨some, same⟩ := fromChars_some read
  rw [takeWhile_of_digits digits] at some same
  rw [number_eq] at same
  rw [same]
  exact ⟨fun denotes => denotes.2.2, fun equal => ⟨some, digits, equal⟩⟩

/-- The digits at the beginning of a value are read, but the value goes on after
them, or they denote too large a number. -/
def Misread (bound : Nat) (text : Text) : Prop :=
  ∃ value, fromChars text = some value ∧
    ((∃ character ∈ text, isDigit character = false) ∨ bound ≤ value.toNat)

/-- A value that is read is misread unless it is a numeral in range. -/
theorem misread_iff {bound : Nat} {text : Text} {value : UInt64}
    (read : fromChars text = some value) :
    text.Misread bound ↔ ¬∃ number, text.Denotes number ∧ number < bound := by
  by_cases digits : ∀ character ∈ text, isDigit character = true
  · have whole : ¬∃ character ∈ text, isDigit character = false := by
      rintro ⟨character, member, other⟩
      rw [digits character member] at other
      cases other
    simp only [denotes_iff read digits, exists_eq_left, Nat.not_lt, Misread,
      read, Option.some.injEq, exists_eq_left', whole, false_or]
  · constructor
    · rintro _ ⟨_, denotes, _⟩
      exact digits denotes.2.1
    · intro _
      simp only [not_forall, Bool.not_eq_true] at digits
      obtain ⟨character, member, other⟩ := digits
      exact ⟨value, read, Or.inl ⟨character, member, other⟩⟩

end Text

namespace BootstrapConfig

open Text

variable {configText : Text} {config : BootstrapConfig}

/-- The values that a text gives in directives that begin like this. -/
def valuesOf (key configText : Text) : List Text :=
  (directives configText).filterMap fun line =>
    if startsWith line key = true then some (line.drop key.length) else none

/-- Numbers are read as what they denote, or the text is rejected. -/
structure Faithful (configText : Text) : Prop where
  timeout : ∀ config, fromText configText = some config →
    ∀ value ∈ (valuesOf (ofAscii "timeout_ms ") configText).getLast?,
      ∃ number, value.Denotes number ∧ config.timeout.toInt = number
  checkCycles : ∀ config, fromText configText = some config →
    ∀ value ∈ (valuesOf (ofAscii "monitor.check_cycles ") configText).getLast?,
      ∃ number, value.Denotes number ∧
        config.monitor.checkCycles.toNat = number
  badTimeout : ∀ value ∈ valuesOf (ofAscii "timeout_ms ") configText,
    (¬∃ number, value.Denotes number ∧ number < 2 ^ 63) →
      fromText configText = none
  badCycles : ∀ value ∈ valuesOf (ofAscii "monitor.check_cycles ") configText,
    (¬∃ number, value.Denotes number ∧ number < 2 ^ 64) →
      fromText configText = none

/-- A directive that can be read. -/
def Readable (line : Text) : Prop :=
  startsWith line (ofAscii "service ") = true ∨
    startsWith line (ofAscii "timeout_ms ") = true ∧
      (fromChars (line.drop 11)).isSome = true ∨
    startsWith line (ofAscii "monitor.enabled ") = true ∧
      (parseBool (trimCopy (line.drop 16))).isSome = true ∨
    startsWith line (ofAscii "monitor.logger_alert ") = true ∧
      (parseBool (trimCopy (line.drop 21))).isSome = true ∨
    startsWith line (ofAscii "monitor.check_cycles ") = true ∧
      (fromChars (line.drop 21)).isSome = true

/-- The text has a directive that cannot be read, or no service. -/
def Rejected (configText : Text) : Prop :=
  (∃ line ∈ directives configText, ¬Readable line) ∨
    ∀ line ∈ directives configText,
      startsWith line (ofAscii "service ") = false

/-- A directive is not blank and does not end with a space. -/
theorem directive_trimmed {line : Text}
    (member : line ∈ directives configText) :
    line ≠ [] ∧ ∀ character ∈ line.getLast?, isSpace character = false := by
  obtain ⟨listed, kept⟩ := List.mem_filter.mp member
  obtain ⟨raw, _, rfl⟩ := List.mem_map.mp listed
  have some : trimCopy raw ≠ [] := by
    rintro empty
    rw [empty] at kept
    cases kept
  refine ⟨some, ?_⟩
  intro character last
  rw [List.getLast?_eq_getLast_of_ne_nil some] at last
  cases last
  exact Bool.eq_false_of_not_eq_true (List.rdropWhile_last_not _ _ some)

/-- A trimmed line that begins with `service ` names one. -/
theorem readService_isSome {line : Text}
    (ends : ∀ character ∈ line.getLast?, isSpace character = false)
    (starts : startsWith line (ofAscii "service ") = true) :
    (readService line).isSome = true := by
  obtain ⟨rest, rfl⟩ := startsWith_iff.mp starts
  have dropped : (ofAscii "service " ++ rest).drop 8 = rest := rfl
  have named : rest.dropWhile (· == space) ≠ [] := by
    intro gone
    have spaces := List.dropWhile_eq_nil_iff.mp gone
    cases last : rest.getLast? with
    | none =>
        rw [List.getLast?_eq_none_iff.mp last] at ends
        cases ends space rfl
    | some character =>
        have blank := spaces character (List.mem_of_getLast? last)
        have solid : isSpace character = false := by
          apply ends
          rw [List.getLast?_append, last]
          rfl
        rw [isSpace, blank] at solid
        cases solid
  have first : (rest.dropWhile (· == space)).takeWhile (· != space) ≠ [] := by
    obtain ⟨character, characters, shape⟩ :=
      List.exists_cons_of_ne_nil named
    have other := List.head_dropWhile_not (· == space) named
    simp only [shape, List.head_cons] at other
    rw [shape, List.takeWhile_cons, bne, other]
    exact List.cons_ne_nil _ _
  simp only [readService, dropped, if_neg named]
  split
  · rw [if_neg named]
    rfl
  · rw [if_neg first]
    rfl

private theorem directive_isSome_iff {line : Text}
    (ends : ∀ character ∈ line.getLast?, isSpace character = false) :
    (directive line).isSome = true ↔ Readable line := by
  have apart : ∀ {first second : ConfigKey}, first ≠ second →
      startsWith line first.text = true →
        ¬startsWith line second.text = true :=
    fun different one other => different (ConfigKey.unique one other)
  unfold directive Readable
  by_cases service : startsWith line (ofAscii "service ") = true
  · simp [service, readService_isSome ends service]
  by_cases timeout : startsWith line (ofAscii "timeout_ms ") = true
  · have enabled := @apart .timeout .enabled (by decide) timeout
    have alert := @apart .timeout .loggerAlert (by decide) timeout
    have cycles := @apart .timeout .checkCycles (by decide) timeout
    simp only [ConfigKey.text] at enabled alert cycles
    simp [service, timeout, enabled, alert, cycles]
  by_cases enabled : startsWith line (ofAscii "monitor.enabled ") = true
  · have alert := @apart .enabled .loggerAlert (by decide) enabled
    have cycles := @apart .enabled .checkCycles (by decide) enabled
    simp only [ConfigKey.text] at alert cycles
    simp [service, timeout, enabled, alert, cycles]
  by_cases alert : startsWith line (ofAscii "monitor.logger_alert ") = true
  · have cycles := @apart .loggerAlert .checkCycles (by decide) alert
    simp only [ConfigKey.text] at cycles
    simp [service, timeout, enabled, alert, cycles]
  by_cases cycles : startsWith line (ofAscii "monitor.check_cycles ") = true
  · simp [service, timeout, enabled, alert, cycles]
  · simp [service, timeout, enabled, alert, cycles]

/-- These are all the texts that are rejected. -/
theorem fromText_none_iff :
    fromText configText = none ↔ Rejected configText := by
  have readable : ∀ line ∈ directives configText,
      ((directive line).isSome = true ↔ Readable line) :=
    fun line member => directive_isSome_iff (directive_trimmed member).2
  constructor
  · intro rejected
    by_contra kept
    rw [Rejected, not_or] at kept
    obtain ⟨all, serves⟩ := kept
    have read : readDirectives configText =
        some ((directives configText).filterMap directive) := by
      apply readDirectives_some_iff.mpr
      refine ⟨?_, rfl⟩
      intro line member
      rw [readable line member]
      by_contra unreadable
      exact all ⟨line, member, unreadable⟩
    have served : sets configText ConfigKey.service.text = true := by
      by_contra unset
      apply serves
      intro line member
      rw [sets, List.any_eq_true, not_exists] at unset
      exact Bool.eq_false_of_not_eq_true fun starts =>
        unset line ⟨member, starts⟩
    obtain ⟨change, member, about⟩ := (sets_iff read .service).mp served
    have accepted := (@fromText_some_iff configText _).mpr
      ⟨_, read, rfl, by
        rw [foldl_change]
        cases change with
        | service value =>
            intro empty
            have listed := List.mem_filterMap.mpr ⟨_, member,
              (rfl : Directive.service? (.service value) = some value)⟩
            rw [List.append_eq_nil_iff.mp empty |>.2] at listed
            cases listed
        | _ => cases about⟩
    rw [rejected] at accepted
    cases accepted
  · intro rejected
    cases accepted : fromText configText with
    | none => rfl
    | some config =>
        exfalso
        obtain ⟨read, found, shape, served⟩ := fromText_some_iff.mp accepted
        obtain ⟨all, _⟩ := readDirectives_some_iff.mp found
        rcases rejected with ⟨line, member, unreadable⟩ | none
        · exact unreadable ((readable line member).mp (all line member))
        · have unset : ¬sets configText ConfigKey.service.text = true := by
            rw [sets, List.any_eq_true]
            rintro ⟨line, member, starts⟩
            have other := none line member
            rw [ConfigKey.text] at starts
            rw [starts] at other
            cases other
          apply served
          rw [shape, foldl_change]
          show [] ++ _ = []
          rw [List.nil_append, List.filterMap_eq_nil_iff]
          intro change member
          cases change with
          | service value =>
              exact absurd ((sets_iff found .service).mpr ⟨_, member, rfl⟩)
                unset
          | _ => rfl

/-- How the directives about a number are read. -/
structure ReadsNumber (key : ConfigKey) {Value : Type}
    (value : Directive → Option Value) (store : UInt64 → Value) : Prop where
  about : ∀ change : Directive,
    (value change).isSome = true ↔ change.key = key
  reads : ∀ line : Text, startsWith line key.text = true →
    (directive line).bind value =
      (fromChars (line.drop key.text.length)).map store
  readable : ∀ line : Text, startsWith line key.text = true →
    (directive line).isSome = true →
      (fromChars (line.drop key.text.length)).isSome = true

private theorem readsNumber_timeout :
    ReadsNumber .timeout Directive.timeout? UInt64.toInt64 := by
  have shape : ∀ line : Text,
      startsWith line ConfigKey.timeout.text = true →
        directive line = (fromChars (line.drop 11)).map fun value =>
          .timeout value.toInt64 := by
    intro line starts
    have service : ¬startsWith line (ofAscii "service ") = true :=
      fun other => nomatch @ConfigKey.unique .service .timeout _ other starts
    rw [directive, if_neg service]
    exact if_pos starts
  constructor
  · intro change
    cases change <;> simp [Directive.timeout?, Directive.key]
  · intro line starts
    rw [shape line starts]
    show _ = (fromChars (line.drop 11)).map UInt64.toInt64
    cases fromChars (line.drop 11) with
    | none => rfl
    | some value => rfl
  · intro line starts found
    rw [shape line starts, Option.isSome_map] at found
    exact found

private theorem readsNumber_checkCycles :
    ReadsNumber .checkCycles Directive.checkCycles? id := by
  have shape : ∀ line : Text,
      startsWith line ConfigKey.checkCycles.text = true →
        directive line = (fromChars (line.drop 21)).map .checkCycles := by
    intro line starts
    have other : ∀ key : ConfigKey, key ≠ .checkCycles →
        ¬startsWith line key.text = true :=
      fun key different also => different (ConfigKey.unique also starts)
    exact (if_neg (other .service (by decide))).trans
      ((if_neg (other .timeout (by decide))).trans
        ((if_neg (other .enabled (by decide))).trans
          ((if_neg (other .loggerAlert (by decide))).trans (if_pos starts))))
  constructor
  · intro change
    cases change <;> simp [Directive.checkCycles?, Directive.key]
  · intro line starts
    rw [shape line starts]
    show _ = (fromChars (line.drop 21)).map id
    cases fromChars (line.drop 21) with
    | none => rfl
    | some value => rfl
  · intro line starts found
    rw [shape line starts, Option.isSome_map] at found
    exact found

variable {key : ConfigKey} {Value : Type} {value : Directive → Option Value}
variable {store : UInt64 → Value}

/-- The number that the directives of an accepted text set is the last one. -/
theorem ReadsNumber.last (number : ReadsNumber key value store)
    {read : List Directive} (readable : readDirectives configText = some read)
    {text : Text} (final : text ∈ (valuesOf key.text configText).getLast?) :
    ∃ stored, fromChars text = some stored ∧
      Settings.last value read = some (store stored) := by
  obtain ⟨all, rfl⟩ := readDirectives_some_iff.mp readable
  have pointwise : ∀ line : Text, (directive line).bind value =
      (if startsWith line key.text = true then
        some (line.drop key.text.length) else none).bind
          fun text => (fromChars text).map store := by
    intro line
    by_cases starts : startsWith line key.text = true
    · rw [if_pos starts]
      exact number.reads line starts
    · rw [if_neg starts]
      cases found : directive line with
      | none => rfl
      | some change =>
          apply Option.not_isSome_iff_eq_none.mp
          intro set
          have about := (number.about change).mp set
          exact starts ((startsWith_iff_key found key).mpr about)
  have same : ((directives configText).filterMap directive).filterMap value =
      (valuesOf key.text configText).filterMap fun text =>
        (fromChars text).map store := by
    rw [valuesOf, List.filterMap_filterMap, List.filterMap_filterMap]
    apply List.filterMap_congr
    intro line _
    exact pointwise line
  obtain ⟨line, listed, shape⟩ :=
    List.mem_filterMap.mp (List.mem_of_getLast? final)
  split at shape
  · rename_i starts
    cases shape
    obtain ⟨stored, found⟩ := Option.isSome_iff_exists.mp
      (number.readable line starts (all line listed))
    refine ⟨stored, found, ?_⟩
    obtain ⟨before, values⟩ := List.getLast?_eq_some_iff.mp final
    rw [Settings.last, same, values, List.filterMap_append]
    simp [found]
  · cases shape

/-- Every such value of an accepted text can be read. -/
theorem ReadsNumber.read (number : ReadsNumber key value store)
    (accepted : fromText configText = some config) {text : Text}
    (member : text ∈ valuesOf key.text configText) :
    ∃ stored, fromChars text = some stored := by
  obtain ⟨_, readable, _⟩ := fromText_some_iff.mp accepted
  obtain ⟨all, _⟩ := readDirectives_some_iff.mp readable
  obtain ⟨line, listed, shape⟩ := List.mem_filterMap.mp member
  split at shape
  · rename_i starts
    cases shape
    exact Option.isSome_iff_exists.mp
      (number.readable line starts (all line listed))
  · cases shape

/-- The last value is stored as what it denotes, unless it is misread. -/
theorem ReadsNumber.stored (number : ReadsNumber key value store)
    {read : List Directive} (readable : readDirectives configText = some read)
    {bound : Nat} (sound : ∀ text ∈ valuesOf key.text configText,
      ¬text.Misread bound)
    {text : Text} (final : text ∈ (valuesOf key.text configText).getLast?) :
    ∃ stored, text.Denotes stored.toNat ∧ stored.toNat < bound ∧
      Settings.last value read = some (store stored) := by
  obtain ⟨stored, reads, last⟩ := number.last readable final
  obtain ⟨denoted, denotes, small⟩ : ∃ denoted,
      text.Denotes denoted ∧ denoted < bound := by
    by_contra none
    exact sound text (List.mem_of_getLast? final)
      ((misread_iff reads).mpr none)
  have stores := (denotes_iff reads denotes.2.1 denoted).mp denotes
  subst stores
  exact ⟨stored, denotes, small, last⟩

/-- Every value that is not a numeral in range makes an accepted text
unreadable, when none is misread. -/
theorem ReadsNumber.refuses_iff (number : ReadsNumber key value store)
    (accepted : fromText configText = some config) (bound : Nat) :
    (∀ text ∈ valuesOf key.text configText,
      (¬∃ denoted, text.Denotes denoted ∧ denoted < bound) →
        fromText configText = none) ↔
      ∀ text ∈ valuesOf key.text configText, ¬text.Misread bound := by
  constructor
  · intro refuses text member misread
    obtain ⟨stored, reads⟩ := number.read accepted member
    have rejected := refuses text member ((misread_iff reads).mp misread)
    rw [accepted] at rejected
    cases rejected
  · intro sound text member bad
    obtain ⟨stored, reads⟩ := number.read accepted member
    exact absurd ((misread_iff reads).mpr bad) (sound text member)

/-- A 64-bit number keeps its value as a timeout when its highest bit is not
set. -/
theorem toInt_toInt64 {value : UInt64} (small : value.toNat < 2 ^ 63) :
    value.toInt64.toInt = value.toNat := by
  have halved : 2 * value.toBitVec.toNat < 2 ^ 64 := by
    have same : value.toBitVec.toNat = value.toNat := rfl
    omega
  exact BitVec.toInt_eq_toNat_of_lt halved

/-- The parser is exact about the numbers of a text if and only if the text is
rejected for another reason, or none of its numbers is misread. -/
theorem numbers_faithful_iff (configText : Text) :
    Faithful configText ↔
      Rejected configText ∨
        (∀ value ∈ valuesOf (ofAscii "timeout_ms ") configText,
          ¬value.Misread (2 ^ 63)) ∧
        ∀ value ∈ valuesOf (ofAscii "monitor.check_cycles ") configText,
          ¬value.Misread (2 ^ 64) := by
  cases accepted : fromText configText with
  | none =>
      apply iff_of_true
      · constructor
        · intro config found
          rw [accepted] at found
          cases found
        · intro config found
          rw [accepted] at found
          cases found
        · exact fun _ _ _ => accepted
        · exact fun _ _ _ => accepted
      · exact Or.inl (fromText_none_iff.mp accepted)
  | some config =>
      have kept : ¬Rejected configText := by
        intro rejected
        rw [fromText_none_iff.mpr rejected] at accepted
        cases accepted
      rw [or_iff_right kept]
      constructor
      · intro faithful
        constructor
        · exact (readsNumber_timeout.refuses_iff accepted _).mp
            faithful.badTimeout
        · exact (readsNumber_checkCycles.refuses_iff accepted _).mp
            faithful.badCycles
      · rintro ⟨timeouts, cycles⟩
        obtain ⟨read, readable, shape, _⟩ := fromText_some_iff.mp accepted
        constructor
        · intro same found value final
          rw [accepted] at found
          cases found
          obtain ⟨stored, denotes, small, last⟩ :=
            readsNumber_timeout.stored readable timeouts final
          refine ⟨stored.toNat, denotes, ?_⟩
          rw [shape, foldl_change]
          simp only [last, Option.getD_some]
          exact toInt_toInt64 small
        · intro same found value final
          rw [accepted] at found
          cases found
          obtain ⟨stored, denotes, _, last⟩ :=
            readsNumber_checkCycles.stored readable cycles final
          refine ⟨stored.toNat, denotes, ?_⟩
          rw [shape, foldl_change]
          simp only [last, Option.getD_some, id_eq]
        · exact (readsNumber_timeout.refuses_iff accepted _).mpr timeouts
        · exact (readsNumber_checkCycles.refuses_iff accepted _).mpr cycles

/-- The value `12abc` is read as twelve. -/
theorem numbers_overread :
    ¬Faithful (ofAscii "service a\ntimeout_ms 12abc") := by
  intro faithful
  have rejected := faithful.badTimeout (ofAscii "12abc") (by decide) (by
    rintro ⟨_, ⟨_, digits, _⟩, _⟩
    have letter := digits 97 (by decide)
    cases letter)
  have accepted : fromText (ofAscii "service a\ntimeout_ms 12abc") =
      some { services := [{ name := ofAscii "a" }], timeout := 12 } := by
    decide
  rw [accepted] at rejected
  cases rejected

/-- A timeout whose highest bit is set is read as a negative one. -/
example : (fromText (ofAscii
    "service a\ntimeout_ms 9223372036854775808")).map timeout =
      some (-9223372036854775808) := by
  decide

end BootstrapConfig

end Crynet
