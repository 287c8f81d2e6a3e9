import DonationPage.Text.Percent
import DonationPage.Text.Split
/-! The path and the query of an http URL, as they are sent. -/
namespace DonationPage

private def isControl (c : Char) : Bool := c.toNat < 0x20 || c.toNat = 0x7F

private def isSeen (c : Char) : Bool := c.toNat < 0x80 && !isControl c && c ≠ ' '

def isPathSafe (c : Char) : Bool :=
  isSeen c && ['"', '<', '>', '\x60', '#', '?', '\x7b', '\x7d'].all (· ≠ c)

def isQuerySafe (c : Char) : Bool :=
  isSeen c && ['"', '<', '>', '#', '\''].all (· ≠ c)

/-- A segment that means this place: one dot, which may be percent-encoded. -/
def isHere (segment : List Char) : Bool :=
  [".", "%2e"].contains (String.ofList (segment.map Char.toLower))

def isAbove (segment : List Char) : Bool :=
  ["..", ".%2e", "%2e.", "%2e%2e"].contains (String.ofList (segment.map Char.toLower))

/-- The segments of a path with those that mean other places resolved; `done` are those before, the
last of them first. -/
def resolveSegments (done : List (List Char)) : List (List Char) → List (List Char)
  | [] => done.reverse
  | segment :: rest =>
    let done :=
      if isAbove segment then (if rest = [] then [] :: done.drop 1 else done.drop 1)
      else if isHere segment then (if rest = [] then [] :: done else done)
      else percentEncode isPathSafe segment :: done
    resolveSegments done rest

def sentPath (path : List Char) : List Char :=
  let path := path.map fun c => if c = '\\' then '/' else c
  let path := if path.head? = some '/' then path.drop 1 else path
  (resolveSegments [] (splitAt '/' path)).flatMap fun segment => '/' :: segment

def isFragmentSafe (c : Char) : Bool :=
  isSeen c && ['"', '<', '>', '\x60'].all (· ≠ c)

end DonationPage
