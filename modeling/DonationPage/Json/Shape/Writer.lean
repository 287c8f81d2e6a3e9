import DonationPage.Json.Sequence
import DonationPage.Json.Shape
/-! Writing a payload of a given shape: without spaces, the fields of a record in their order. -/
namespace DonationPage.Json

mutual

def Shape.write : (shape : Shape) → shape.Val → List Char
  | .text, v => writeText v
  | .int64, v => intDigits (Int64.toInt v)
  | .uint64, v => digits (UInt64.toNat v)
  | .list item, v => writeList (List.map item.write v)
  | .optional content, v =>
    match (v : Option content.Val) with
    | none => ['n', 'u', 'l', 'l']
    | some v => content.write v
  | .table item, v => writeObject (List.map (fun m => writeMember m.1 (item.write m.2)) v.members)
  | .choice names, v => writeText (names.get v)
  | .record _ fields, v => writeObject (fields.writeMembers v)

def Fields.writeMembers : (fields : Fields) → fields.Val → List (List Char)
  | .nil, _ => []
  | .cons name presence shape rest, v =>
    if presence = .sparse ∧ shape.isNone v.1 = true then rest.writeMembers v.2
    else writeMember name (shape.write v.1) :: rest.writeMembers v.2

end

end DonationPage.Json
