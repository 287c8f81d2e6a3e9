import DonationPage.Decimal.Digits
import DonationPage.Text.Alphanumeric
import DonationPage.Text.Blank
import DonationPage.Text.Split
import DonationPage.Text.Utf8
/-! Filters of a log. A filter is a list of directives, each of which says down to what level lines are
shown: all lines, or those of targets that start as the directive says. -/
namespace DonationPage

inductive LogLevel where
  | error
  | warn
  | info
  | debug
  | trace
deriving DecidableEq

namespace LogLevel

def all : List LogLevel := [error, warn, info, debug, trace]

def name : LogLevel → String
  | error => "ERROR"
  | warn => "WARN"
  | info => "INFO"
  | debug => "DEBUG"
  | trace => "TRACE"

/-- The higher the rank, the less a level matters. -/
def rank : LogLevel → Nat
  | error => 1
  | warn => 2
  | info => 3
  | debug => 4
  | trace => 5

end LogLevel

/-- The rank down to which lines are shown; at zero none is. -/
abbrev LogThreshold := Nat

def readThreshold? (cs : List Char) : Option LogThreshold :=
  let digits := (takeFlag '+' cs).2
  if digits ≠ [] ∧ digits.all Char.isDigit then
    if digitsValue digits ≤ LogLevel.trace.rank then some (digitsValue digits) else none
  else
    let word := String.ofList (cs.map Char.toUpper)
    if word = "OFF" then some 0
    else (LogLevel.all.find? fun level => level.name = word).map LogLevel.rank

/-- A line of a log passes a directive about its target by its level. A directive about spans of work
passes no line, since no line is written inside of one. -/
structure LogDirective where
  target? : Option (List Char)
  ofSpans : Bool
  threshold : LogThreshold
deriving DecidableEq

namespace LogDirective

def readRest? (cs : List Char) : Option LogThreshold :=
  if cs = [] then some LogLevel.trace.rank else readThreshold? cs

/-- A word alone: a threshold for all lines, or a target all lines of which are shown. -/
def ofWord (word : List Char) : LogDirective :=
  match readThreshold? word with
  | some threshold => ⟨none, false, threshold⟩
  | none => ⟨some word, false, LogLevel.trace.rank⟩

/-- The number of characters, up to the closing bracket, that describe spans: a name, and fields that
braces enclose. -/
def spanLength? (cs : List Char) : Option Nat := do
  let name := cs.takeWhile fun c => c ≠ ']' ∧ c ≠ '\x7b'
  match cs.drop name.length with
  | ']' :: _ => return name.length + 1
  | '\x7b' :: rest =>
    let fields := rest.takeWhile (· ≠ '\x7d')
    guard (fields ≠ [] ∧ (rest.drop fields.length).take 2 = ['\x7d', ']'])
    return name.length + fields.length + 3
  | _ => none

private def startsWord (c : Char) : Bool := isAlphanumeric c || c = '-' || c = ':' || c = '_'

/-- Reads a directive. Its parts are found with the blanks around it left out of account, and are cut at
these places out of the text with its blanks. -/
def ofText? (text : List Char) : Option LogDirective := do
  let seen := trim text
  guard (seen.head?.any fun c => c = '[' || startsWord c)
  let target := (seen.takeWhile fun c => c ≠ '=' ∧ c ≠ '[').length
  let target? := if target = 0 then none else some (text.take target)
  match seen.drop target with
  | [] => return ofWord text
  | '=' :: _ => return ⟨target?, false, ← readRest? (text.drop (target + 1))⟩
  | _ :: rest =>
    let stop := target + 1 + (← spanLength? rest)
    match seen.drop stop with
    | [] => return ⟨target?, true, LogLevel.trace.rank⟩
    | '=' :: _ => return ⟨target?, true, ← readRest? (text.drop (stop + 1))⟩
    | _ => none

def covers (d : LogDirective) (target : String) : Bool :=
  !d.ofSpans && (d.target?.getD []).isPrefixOf target.toList

/-- Of two directives about a line, that with the longer target counts. -/
def weight (d : LogDirective) : Nat := (d.target?.map fun t => utf8Length t + 1).getD 0

end LogDirective

structure LogFilter where
  directives : List LogDirective
deriving DecidableEq

namespace LogFilter

def downTo (level : LogLevel) : LogFilter := ⟨[⟨none, false, level.rank⟩]⟩

def ofText? (text : String) : Option LogFilter := do
  let parts := (splitAt ',' text.toList).filter (· ≠ [])
  return ⟨← parts.mapM LogDirective.ofText?⟩

/-- The directive that counts for a target: the later one of those with the longest targets. -/
def directive? (f : LogFilter) (target : String) : Option LogDirective :=
  (f.directives.filter (·.covers target)).foldl
    (fun best? d => if best?.all fun best => best.weight ≤ d.weight then some d else best?) none

/-- Whether a line is shown; a line that no directive is about is not. -/
def shows (f : LogFilter) (target : String) (level : LogLevel) : Bool :=
  (f.directive? target).any fun d => level.rank ≤ d.threshold

end LogFilter

end DonationPage
