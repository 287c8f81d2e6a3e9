import DonationPage.Text.Quoted
import DonationPage.Text.Split
/-! Named variables: what a name gives, and which variables can be set at all. -/
namespace DonationPage

abbrev Lookup := String → Option String

def Lookup.ofList (pairs : List (String × String)) : Lookup := fun name =>
  (pairs.find? fun v => v.1 = name).map (·.2)

def Lookup.orElse (first second : Lookup) : Lookup := fun name => (first name).or (second name)

/-- What any text gives as a name. An environment keeps a variable as one text, its name and its value
with an equals sign between them, so that a name with an equals sign finds a variable whose value goes
on as the name does. -/
def Lookup.entry (lookup : Lookup) : Lookup := fun name =>
  match cutAt '=' name.toList with
  | (_, none) => lookup name
  | (owner, some start) => do
    let value ← lookup (String.ofList owner)
    return String.ofList (← dropStart? (start ++ ['=']) value.toList)

inductive VariableFault where
  | holdsNul (name value : String)
  | malformedName (name value : String)
deriving DecidableEq

def VariableFault.message : VariableFault → String
  | holdsNul name value => refusal name value "file name contained an unexpected NUL byte"
  | malformedName name value => refusal name value "Invalid argument (os error 22)"
where
  refusal (name value reason : String) : String :=
    "failed to set environment variable `" ++ quoteEither name ++ "` to `" ++ quoteEither value ++
      "`: " ++ reason

/-- Whether a variable can be set: its text would end at a NUL, and its name at an equals sign. -/
def checkVariable (name value : String) : Except VariableFault Unit :=
  if '\x00' ∈ name.toList ∨ '\x00' ∈ value.toList then .error (.holdsNul name value)
  else if name = "" ∨ '=' ∈ name.toList then .error (.malformedName name value)
  else .ok ()

def setVariables (pairs : List (String × String)) : Except VariableFault Lookup := do
  pairs.forM fun v => checkVariable v.1 v.2
  return .ofList pairs

end DonationPage
