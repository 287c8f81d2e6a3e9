import DonationPage.Json.Payload
/-! The messages with which the origin refuses a form: by form, and in it by field. -/
namespace DonationPage

open Json

structure FieldErrors where
  forms : Table (Table String)
deriving DecidableEq

instance : Payload FieldErrors where
  shape := .table (.table .text)
  toVal e := e.forms
  ofVal t := ⟨t⟩
  ofVal_toVal _ := rfl

/-- Messages of one form set beside its controls; `unmatched` are those no control is there for. -/
structure InlineErrors where
  byControl : Table String
  unmatched : List String

namespace FieldErrors

def ofText? (body : String) : Option FieldErrors := (decode FieldErrors body).toOption

def size (e : FieldErrors) : Nat := e.forms.members.foldr (fun m n => m.2.size + n) 0

def isEmpty (e : FieldErrors) : Bool := e.size == 0

def form? (e : FieldErrors) (form : String) : Option (Table String) := e.forms.get? form

def place (controls : List String) (inline : InlineErrors) (field message : String) : InlineErrors :=
  if field ∈ controls then { inline with byControl := inline.byControl.insert field message }
  else { inline with unmatched := inline.unmatched ++ [field ++ ": " ++ message] }

def mapOnto (e : FieldErrors) (form : String) (controls : List String) : InlineErrors :=
  match e.form? form with
  | none => ⟨.empty, []⟩
  | some fields =>
    fields.members.foldl (fun inline m => place controls inline m.1 m.2) ⟨.empty, []⟩

end FieldErrors

end DonationPage
