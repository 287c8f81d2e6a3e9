import DonationPage.Text.Percent
import DonationPage.Text.Split
/-! The query parameters of a URL reference. -/
namespace DonationPage

/-- The query of a URL reference: what stands between the first question mark and a fragment. -/
def queryOf? (cs : List Char) : Option (List Char) := (cutAt '?' (cutAt '#' cs).1).2

def queryParameters (query : List Char) : List (String × String) :=
  (splitAt '&' query).map fun part =>
    let (key, value?) := cutAt '=' part
    let decode (cs : List Char) := String.ofList (utf8Decode (percentDecode cs))
    (decode key, decode (value?.getD []))

def urlParameters (url : String) : List (String × String) :=
  ((queryOf? url.toList).map queryParameters).getD []

end DonationPage
