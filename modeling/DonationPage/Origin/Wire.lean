import DonationPage.Origin
/-! Messages between the page and the origin as bytes: a request of HTTP/1.0, to which the reply ends
with the connection. -/
namespace DonationPage

def Message.toBytes (m : Message) : List UInt8 :=
  let body := utf8Encode m.body.toList
  let headers :=
    ["Host: " ++ m.url.host.text ++ ":" ++ Json.intText m.url.service,
      "Content-Type: " ++ m.contentType,
      "Content-Length: " ++ Json.intText body.length] ++
    (m.hxRequest?.map fun value => "HX-Request: " ++ value).toList
  let head := (m.method ++ " " ++ m.url.target ++ " HTTP/1.0") :: headers
  utf8Encode ((head.flatMap fun line => line.toList ++ ['\r', '\n']) ++ ['\r', '\n']) ++ body

def cutAtEmptyLine : List UInt8 → Option (List UInt8 × List UInt8)
  | [] => none
  | 13 :: 10 :: 13 :: 10 :: rest => some ([], rest)
  | b :: rest => (cutAtEmptyLine rest).map fun (head, body) => (b :: head, body)

def RawReply.ofBytes? (bytes : List UInt8) : Option RawReply := do
  let (head, body) ← cutAtEmptyLine bytes
  let statusLine := (splitAt '\r' (utf8Decode head)).headD []
  match splitAt ' ' statusLine with
  | _ :: status :: _ =>
    guard (status ≠ [] ∧ status.all Char.isDigit ∧ digitsValue status < 1000)
    return ⟨UInt16.ofNat (digitsValue status), body⟩
  | _ => none

end DonationPage
