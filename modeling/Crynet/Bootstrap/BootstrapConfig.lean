import Crynet.Actor.Message
import Mathlib.Data.List.DropRight

/-!
# The bootstrap configuration

A text is read line by line.  A line that is blank or begins with `#` is
skipped; any other is a directive, and one that cannot be read makes the whole
text unreadable.
-/

namespace Crynet

namespace Text

/-- The bytes of a literal. -/
def ofAscii (literal : String) : Text :=
  literal.toList.map fun character => character.toNat.toUInt8

def newline : UInt8 := 10

def space : UInt8 := 32

/-- `std::isspace` in the C locale. -/
def isSpace (character : UInt8) : Bool :=
  character == space || (9 ≤ character && character ≤ 13)

def isDigit (character : UInt8) : Bool :=
  48 ≤ character && character ≤ 57

def trimCopy (text : Text) : Text :=
  (text.dropWhile isSpace).rdropWhile isSpace

def startsWith (text pre : Text) : Bool :=
  pre.length ≤ text.length && text.take pre.length == pre

/-- Reading digits from left to right. -/
def number (digits : Text) : Nat :=
  digits.foldl (fun value digit => 10 * value + (digit.toNat - 48)) 0

/-- `std::from_chars` for a `std::uint64_t`, when only its error code is looked
at: it reads the digits at the beginning, and fails if there are none or their
number is too large. -/
def fromChars (text : Text) : Option UInt64 :=
  let digits := text.takeWhile isDigit
  if digits = [] ∨ UInt64.size ≤ number digits then none
  else some (UInt64.ofNat (number digits))

def parseBool (text : Text) : Option Bool :=
  if text = ofAscii "1" ∨ text = ofAscii "true" ∨ text = ofAscii "on" ∨
      text = ofAscii "yes" then
    some true
  else if text = ofAscii "0" ∨ text = ofAscii "false" ∨
      text = ofAscii "off" ∨ text = ofAscii "no" then
    some false
  else
    none

end Text

structure BootstrapServiceConfig where
  name : Text := []
  bootPayload : Text := []
  deriving DecidableEq, Repr

structure BootstrapMonitorConfig where
  enabled : Bool := false
  loggerAlertEnabled : Bool := true
  checkCycles : UInt64 := 1
  deriving DecidableEq, Repr

/-- The timeout is a number of milliseconds. -/
structure BootstrapConfig where
  services : List BootstrapServiceConfig := []
  timeout : Int64 := 0
  monitor : BootstrapMonitorConfig := {}
  deriving DecidableEq, Repr

namespace BootstrapConfig

open Text

/-- The rest of a line that begins with `service `. -/
def readService (line : Text) : Option BootstrapServiceConfig :=
  let named := (line.drop 8).dropWhile (· == space)
  if named = [] then
    none
  else
    let service : BootstrapServiceConfig :=
      match named.dropWhile (· != space) with
      | [] => { name := named }
      | _ :: payload =>
          { name := named.takeWhile (· != space)
            bootPayload := trimCopy payload }
    if service.name = [] then none else some service

/-- One directive. -/
def readLine (config : BootstrapConfig) (line : Text) :
    Option BootstrapConfig :=
  if startsWith line (ofAscii "service ") = true then
    match readService line with
    | none => none
    | some service =>
        some { config with services := config.services ++ [service] }
  else if startsWith line (ofAscii "timeout_ms ") = true then
    match fromChars (line.drop 11) with
    | none => none
    | some timeoutValue =>
        some { config with timeout := timeoutValue.toInt64 }
  else if startsWith line (ofAscii "monitor.enabled ") = true then
    match parseBool (trimCopy (line.drop 16)) with
    | none => none
    | some enabled =>
        some { config with monitor := { config.monitor with enabled := enabled } }
  else if startsWith line (ofAscii "monitor.logger_alert ") = true then
    match parseBool (trimCopy (line.drop 21)) with
    | none => none
    | some enabled =>
        some
          { config with
            monitor := { config.monitor with loggerAlertEnabled := enabled } }
  else if startsWith line (ofAscii "monitor.check_cycles ") = true then
    match fromChars (line.drop 21) with
    | none => none
    | some checkCycles =>
        some
          { config with
            monitor := { config.monitor with checkCycles := checkCycles } }
  else
    none

/-- Neither blank nor a comment. -/
def isDirective (line : Text) : Bool :=
  line != [] && line.head? != (ofAscii "#").head?

/-- The loop of `from_text`.  Each round takes a byte of the text at least, so
its length is fuel enough. -/
def readLines : Nat → BootstrapConfig → Text → Option BootstrapConfig
  | 0, config, _ => some config
  | fuel + 1, config, configText =>
      if configText = [] then
        some config
      else
        let lineBreak := configText.findIdx? (· == newline)
        let rawLine :=
          match lineBreak with
          | none => configText
          | some index => configText.take index
        let line := trimCopy rawLine
        match
          if isDirective line = true then config.readLine line
          else some config with
        | none => none
        | some next =>
            match lineBreak with
            | none => some next
            | some index =>
                readLines fuel next (configText.drop (index + 1))

def fromText (configText : Text) : Option BootstrapConfig :=
  match readLines configText.length {} configText with
  | none => none
  | some config => if config.services = [] then none else some config

end BootstrapConfig

end Crynet
