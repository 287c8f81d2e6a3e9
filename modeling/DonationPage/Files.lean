import DonationPage.Failure
import DonationPage.Text.Split
/-! Text files in a directory, and what a path leads to. -/
namespace DonationPage

/-- The texts of files by their paths. The directories on these paths are there as well. -/
structure Files where
  texts : List (List String × String)

/-- Where a path leads: to a directory among the files, to a file, or to a directory around them, of
which nothing is known but that it is one. -/
inductive Spot where
  | directory (path : List String)
  | file (text : String)
  | around
deriving DecidableEq

namespace Files

def parts (path : String) : List String := (splitAt '/' path.toList).map String.ofList

def steps (path : String) : List String := (parts path).filter fun part => part ≠ "" ∧ part ≠ "."

def ofList (texts : List (String × String)) : Files := ⟨texts.map fun t => (steps t.1, t.2)⟩

/-- No part of a path is longer, in bytes. -/
def longestName : Nat := 255

def longestPath : Nat := 4095

def enter (files : Files) (path : List String) : Except FileFault Spot :=
  match files.texts.find? fun t => t.1 = path with
  | some (_, text) => .ok (.file text)
  | none =>
    if files.texts.any fun t => path.isPrefixOf t.1 then .ok (.directory path) else .error .missing

def follow (files : Files) (spot : Spot) (part : String) : Except FileFault Spot :=
  match spot with
  | .file _ => .error .belowFile
  | .around =>
    if part = "" ∨ part = "." ∨ part = ".." then .ok .around
    else if longestName < part.utf8ByteSize then .error .tooLong
    else .error .missing
  | .directory path =>
    if part = "" ∨ part = "." then .ok (.directory path)
    else if part = ".." then
      .ok (if path = [] then .around else .directory path.dropLast)
    else if longestName < part.utf8ByteSize then .error .tooLong
    else files.enter (path ++ [part])

/-- What a path leads to. A path from the root starts around the files. -/
def locate (files : Files) (path : String) : Except FileFault Spot :=
  if path = "" then .error .missing
  else if longestPath < path.utf8ByteSize then .error .tooLong
  else
    (parts path).foldlM files.follow
      (if path.toList.head? = some '/' then .around else .directory [])

def text (files : Files) (path : String) : Except FileFault String := do
  match ← files.locate path with
  | .file text => .ok text
  | .directory _ | .around => .error .directory

end Files

end DonationPage
