import DonationPage.Text.Printable
/-! Quoted texts, as messages show a text that they did not expect: between quotation marks, with
every character that cannot be seen escaped by its number. -/
namespace DonationPage

def numberEscape (c : Char) : List Char :=
  ['\\', 'u', '\x7b'] ++ Nat.toDigits 16 c.toNat ++ ['\x7d']

/-- A character inside a quoted text. A single quotation mark stands for itself. -/
def quoteChar (c : Char) : List Char :=
  if c = '\x00' then ['\\', '0']
  else if c = '\t' then ['\\', 't']
  else if c = '\n' then ['\\', 'n']
  else if c = '\r' then ['\\', 'r']
  else if c = '"' ∨ c = '\\' then ['\\', c]
  else if isExtending c ∨ ¬ isPrintable c then numberEscape c
  else [c]

def quote (text : String) : String :=
  String.ofList ('"' :: text.toList.flatMap quoteChar ++ ['"'])

def quoteEither (text : String) : String :=
  let character (c : Char) : List Char := if c = '\'' then ['\\', c] else quoteChar c
  String.ofList ('"' :: text.toList.flatMap character ++ ['"'])

end DonationPage
