import DonationPage.Failure
import DonationPage.Json.Value
/-! Tagged elements of a page: each holds, under its id, the JSON text of one of the page's settings. -/
namespace DonationPage

open Json

abbrev TagSource := String → Option String

def TagSource.read {α : Type} (source : TagSource) (kind : Reader α) (id : String) :
    Except Failure α :=
  match source id with
  | none => .error (.setup (.missingTag id))
  | some text =>
    match kind.run text with
    | .ok a => .ok a
    | .error e => .error (.setup (.malformedTag id e))

def TagSource.payload (source : TagSource) (α : Type) [Payload α] (id : String) :
    Except Failure α :=
  source.read (readPayload α) id

structure PageTags where
  texts : Table String

namespace PageTags

def ofPairs (pairs : List (String × String)) : PageTags := ⟨Table.ofList pairs⟩

def insert (page : PageTags) (id text : String) : PageTags := ⟨page.texts.insert id text⟩

def source (page : PageTags) : TagSource := page.texts.get?

/-- The text of an element that a page file gives as a value: a text stands for itself, any other
value for its JSON text. -/
def elementText : Value → String
  | .scalar (.text s) => s
  | v => String.ofList v.write

def ofJson (text : String) : Except Failure PageTags :=
  match Value.read.run text with
  | .error e => .error (.setup (.pageNotJson e))
  | .ok (.object members) => .ok (ofPairs (members.map fun m => (m.1, elementText m.2)))
  | .ok _ => .error (.setup .pageNotObject)

end PageTags

end DonationPage
