import DonationPage.Json.Error
/-! Readers of JSON texts: what is read, what is left, and faults that know how much was left. -/
namespace DonationPage.Json

/-- A fault lies where so many bytes were left unread. -/
structure Fault where
  cause : Cause
  left : Nat

def Fault.before (cause : Cause) (rest : List Char) : Fault := ⟨cause, utf8Length rest⟩

/-- A fault of the next byte, which counts as read; at the end of the text there is none. -/
def Fault.on (cause : Cause) (rest : List Char) : Fault := ⟨cause, utf8Length rest - 1⟩

def Fault.atEnd (cause : Cause) : Fault := ⟨cause, 0⟩

abbrev Reader (α : Type) := StateT (List Char) (Except Fault) α

def isSpace (c : Char) : Bool := c = ' ' || c = '\n' || c = '\t' || c = '\r'

def skipSpaces (cs : List Char) : List Char := cs.dropWhile isSpace

def readWord : List Char → Reader Unit
  | [], cs => .ok ((), cs)
  | _ :: _, [] => .error (.atEnd .endInValue)
  | w :: ws, c :: cs => if c = w then readWord ws cs else .error (.on .expectedWord (c :: cs))

def readColon : Reader Unit := fun cs =>
  match skipSpaces cs with
  | [] => .error (.atEnd .endInObject)
  | c :: rest => if c = ':' then .ok ((), rest) else .error (.on .expectedColon (c :: rest))

/-- What the reader takes off a text, all of which must be taken but for spaces at its end. -/
def Reader.complete {α : Type} (read : Reader α) (cs : List Char) : Except Fault α :=
  match read cs with
  | .error fault => .error fault
  | .ok (a, rest) =>
    match skipSpaces rest with
    | [] => .ok a
    | c :: rest => .error (.on .trailingCharacters (c :: rest))

def Fault.toError (fault : Fault) (text : List Char) : Error :=
  ⟨fault.cause, some (Place.after text (utf8Length text - fault.left))⟩

def Reader.run {α : Type} (read : Reader α) (text : String) : Except Error α :=
  (read.complete text.toList).mapError (·.toError text.toList)

end DonationPage.Json
