import DonationPage.Json.Payload
/-! Payers: as the provider describes them, and as the origin records them. -/
namespace DonationPage

open Json

structure PayerName where
  given : String
  surname : String
deriving DecidableEq

instance : Payload PayerName where
  shape := .record "Name" <|
    .cons "given_name" .defaulted .text <|
    .cons "surname" .defaulted .text .nil
  toVal n := (n.given, n.surname, ())
  ofVal v := ⟨v.1, v.2.1⟩
  ofVal_toVal _ := rfl

structure ProviderPayer where
  id : String
  email : String
  name : PayerName
deriving DecidableEq

/-- The provider calls the record of a payer by the part that the payer plays. -/
def ProviderPayer.shape (record : String) : Shape :=
  .record record <|
    .cons "payer_id" .required .text <|
    .cons "email_address" .defaulted .text <|
    .cons "name" .required (Payload.shape PayerName) .nil

def ProviderPayer.toVal (record : String) (p : ProviderPayer) : (shape record).Val :=
  (p.id, p.email, Payload.toVal p.name, ())

def ProviderPayer.ofVal (record : String) (v : (shape record).Val) : ProviderPayer :=
  ⟨v.1, v.2.1, Payload.ofVal v.2.2.1⟩

structure Payer where
  id : String
  email : String
  givenName : String
  surname : String
deriving DecidableEq

instance : Payload Payer where
  shape := .record "Payer" <|
    .cons "payer_id" .required .text <|
    .cons "email" .required .text <|
    .cons "given_name" .required .text <|
    .cons "surname" .required .text .nil
  toVal p := (p.id, p.email, p.givenName, p.surname, ())
  ofVal v := ⟨v.1, v.2.1, v.2.2.1, v.2.2.2.1⟩
  ofVal_toVal _ := rfl

def ProviderPayer.toPayer (p : ProviderPayer) : Payer :=
  ⟨p.id, p.email, p.name.given, p.name.surname⟩

/-- An amount in the words of the provider, whose text is kept as it is. -/
structure ProviderAmount where
  currency : String
  value : String
deriving DecidableEq

instance : Payload ProviderAmount where
  shape := .record "Amount" <|
    .cons "currency_code" .defaulted .text <|
    .cons "value" .required .text .nil
  toVal a := (a.currency, a.value, ())
  ofVal v := ⟨v.1, v.2.1⟩
  ofVal_toVal _ := rfl

end DonationPage
