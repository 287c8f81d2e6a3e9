import DonationPage.Json.Shape.Reader
import DonationPage.Json.Shape.Writer
/-! Payloads: types whose values are exchanged as JSON texts of a shape. -/
namespace DonationPage.Json

/-- A type with the shape of its JSON texts. Every value is some value of that shape. -/
class Payload (α : Type) where
  shape : Shape
  toVal : α → shape.Val
  ofVal : shape.Val → α
  ofVal_toVal : ∀ a, ofVal (toVal a) = a

def readPayload (α : Type) [Payload α] : Reader α := fun cs =>
  (Shape.read (Payload.shape α) cs).map fun (v, rest) => (Payload.ofVal v, rest)

def decode (α : Type) [Payload α] (text : String) : Except Error α :=
  (readPayload α).run text

def encode {α : Type} [Payload α] (a : α) : String :=
  String.ofList (Shape.write (Payload.shape α) (Payload.toVal a))

instance : Payload String := ⟨.text, id, id, fun _ => rfl⟩

instance : Payload Int64 := ⟨.int64, id, id, fun _ => rfl⟩

instance : Payload UInt64 := ⟨.uint64, id, id, fun _ => rfl⟩

instance {α : Type} [Payload α] : Payload (List α) where
  shape := .list (Payload.shape α)
  toVal as := as.map Payload.toVal
  ofVal vs := vs.map Payload.ofVal
  ofVal_toVal as := by simp [Function.comp_def, Payload.ofVal_toVal]

instance {α : Type} [Payload α] : Payload (Option α) where
  shape := .optional (Payload.shape α)
  toVal a := a.map Payload.toVal
  ofVal v := v.map Payload.ofVal
  ofVal_toVal a := by simp [Function.comp_def, Payload.ofVal_toVal]

end DonationPage.Json
