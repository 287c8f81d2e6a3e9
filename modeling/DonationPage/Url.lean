import DonationPage.Url.Host
import DonationPage.Url.Path
/-! URLs of http: where a request goes, and what it asks for there. -/
namespace DonationPage

structure HttpUrl where
  secure : Bool
  host : Host
  service : Nat
  target : String
  fragment? : Option String
deriving DecidableEq

namespace HttpUrl

/-- The text less what is never part of a URL: line ends and tabs anywhere, blanks and controls at
both ends. -/
def cleanUrl (cs : List Char) : List Char :=
  let outer (c : Char) : Bool := c.toNat ≤ 0x20
  let cs := cs.filter fun c => c ≠ '\t' ∧ c ≠ '\n' ∧ c ≠ '\r'
  ((cs.dropWhile outer).reverse.dropWhile outer).reverse

def readScheme? (cs : List Char) : Option Bool :=
  match String.ofList (cs.map Char.toLower) with
  | "http" => some false
  | "https" => some true
  | _ => none

def defaultService (secure : Bool) : Nat := if secure then 443 else 80

/-- What precedes the first colon outside of brackets, and what follows it if there is one. -/
def cutAtService (inside : Bool) : List Char → List Char × Option (List Char)
  | [] => ([], none)
  | c :: cs =>
    if c = ':' ∧ ¬ inside then ([], some cs)
    else
      let (host, service?) := cutAtService (c = '[' || inside && c ≠ ']') cs
      (c :: host, service?)

def readService (secure : Bool) : Option (List Char) → Except UrlFault Nat
  | none | some [] => .ok (defaultService secure)
  | some ds =>
    if ds.all Char.isDigit ∧ digitsValue ds < UInt16.size then .ok (digitsValue ds)
    else .error .badService

def isSlash (c : Char) : Bool := c = '/' ∨ c = '\\'

def endsAuthority (c : Char) : Bool := isSlash c || c = '?' || c = '#'

def readAuthority (secure : Bool) (authority : List Char) : Except UrlFault (Host × Nat) := do
  let (host, service?) := cutAtService false ((splitAt '@' authority).getLastD [])
  let host ← Host.ofText host
  let service ← readService secure service?
  return (host, service)

/-- What follows the authority, as it is sent, and the fragment, which is not. -/
def readReference (cs : List Char) : List Char × Option (List Char) :=
  let (reference, fragment?) := cutAt '#' cs
  let (path, query?) := cutAt '?' reference
  (sentPath path ++ (query?.map fun q => '?' :: percentEncode isQuerySafe q).getD [],
    fragment?.map (percentEncode isFragmentSafe))

def ofRest (secure : Bool) (rest : List Char) : Except UrlFault HttpUrl := do
  let rest := rest.dropWhile isSlash
  let (host, service) ← readAuthority secure (rest.takeWhile (!endsAuthority ·))
  let (target, fragment?) := readReference (rest.dropWhile (!endsAuthority ·))
  return ⟨secure, host, service, String.ofList target, fragment?.map String.ofList⟩

def ofText (url : String) : Except UrlFault HttpUrl :=
  let (scheme, rest?) := cutAt ':' (cleanUrl url.toList)
  match readScheme? scheme, rest? with
  | some secure, some rest => ofRest secure rest
  | _, _ => .error .notHttp

def text (url : HttpUrl) : String :=
  (if url.secure then "https" else "http") ++ "://" ++ url.host.text ++
    (if url.service = defaultService url.secure then "" else ":" ++ Json.intText url.service) ++
    url.target ++ (url.fragment?.map fun f => "#" ++ f).getD ""

def longestUrl : Nat := UInt16.size - 2

def isSendable (url : HttpUrl) : Bool :=
  url.host.isSendable && url.text.utf8ByteSize ≤ longestUrl

end HttpUrl

end DonationPage
