import DonationPage.Url.Address
import DonationPage.Url.Name
/-! Hosts, as URLs name them. -/
namespace DonationPage

inductive Host where
  | name (labels : List (List Char))
  | v4 (address : Nat)
  | v6 (groups : List Nat)
deriving DecidableEq

namespace Host

def ofText (cs : List Char) : Except UrlFault Host :=
  match cs with
  | [] => .error .emptyHost
  | '[' :: rest =>
    match (if rest.getLast? = some ']' then readV6? rest.dropLast else none) with
    | some groups => .ok (v6 groups)
    | none => .error .badV6
  | _ =>
    match readName? (utf8Decode (percentDecode cs)) with
    | none => .error .badName
    | some labels =>
      if labels = [[]] then .error .emptyHost
      else if endsInNumber labels then
        match readV4? labels with
        | some address => .ok (v4 address)
        | none => .error .badV4
      else .ok (name labels)

def address : Host → String
  | name labels => ".".intercalate (labels.map String.ofList)
  | v4 address => v4Text address
  | v6 groups => v6Text groups

def text : Host → String
  | v6 groups => "[" ++ v6Text groups ++ "]"
  | host => host.address

/-- Whether a request can name a host: there are characters that a URL may hold and a request not. -/
def isSendable (host : Host) : Bool :=
  host.address.toList.all fun c => ¬ ['"', '\x60', '\x7b', '\x7d'].contains c

end Host

end DonationPage
