import DonationPage.Json.Table
/-! The shapes of JSON payloads: which values a payload of a kind may be, and which of its fields may
be left out. -/
namespace DonationPage.Json

/-- What may be left out of a record, besides optional fields of an object: a `defaulted` field, for
which the empty value then stands; a `sparse` one is also not written when it is none. -/
inductive Presence where
  | required
  | defaulted
  | sparse
deriving DecidableEq

mutual

inductive Shape where
  | text
  | int64
  | uint64
  | list (item : Shape)
  | optional (content : Shape)
  | table (item : Shape)
  | choice (names : List String)
  | record (name : String) (fields : Fields)

inductive Fields where
  | nil
  | cons (name : String) (presence : Presence) (shape : Shape) (rest : Fields)

end

mutual

@[reducible] def Shape.Val : Shape → Type
  | .text => String
  | .int64 => Int64
  | .uint64 => UInt64
  | .list item => List item.Val
  | .optional content => Option content.Val
  | .table item => Table item.Val
  | .choice names => Fin names.length
  | .record _ fields => fields.Val

@[reducible] def Fields.Val : Fields → Type
  | .nil => Unit
  | .cons _ _ shape rest => shape.Val × rest.Val

end

/-- The values of those fields that were met so far. -/
@[reducible] def Fields.Slots : Fields → Type
  | .nil => Unit
  | .cons _ _ shape rest => Option shape.Val × rest.Slots

def Fields.noSlots : (fields : Fields) → fields.Slots
  | .nil => ()
  | .cons _ _ _ rest => (none, rest.noSlots)

def Fields.size : Fields → Nat
  | .nil => 0
  | .cons _ _ _ rest => rest.size + 1

def Shape.empty? : (shape : Shape) → Option shape.Val
  | .text => some ""
  | .list _ => some []
  | .optional _ => some none
  | _ => none

/-- The value of a field that a list of fields ends before. -/
def Shape.cutOff? (shape : Shape) (presence : Presence) : Option shape.Val :=
  if presence = .defaulted then shape.empty? else none

def Shape.omitted? (shape : Shape) (presence : Presence) : Option shape.Val :=
  match shape with
  | .optional _ => some none
  | shape => shape.cutOff? presence

def Shape.isNone : (shape : Shape) → shape.Val → Bool
  | .optional _, v => v.isNone
  | _, _ => false

def Fields.fill : (fields : Fields) → fields.Slots → Except String fields.Val
  | .nil, _ => .ok ()
  | .cons name presence shape rest, (slot, slots) =>
    match slot.or (shape.omitted? presence) with
    | some v => (rest.fill slots).map (v, ·)
    | none => .error name

/-- The values of fields that a list of fields ends before, or how many precede the first of them
that may not be left out. -/
def Fields.cutOff : (fields : Fields) → Nat → Except Nat fields.Val
  | .nil, _ => .ok ()
  | .cons _ presence shape rest, before =>
    match shape.cutOff? presence with
    | some v => (rest.cutOff (before + 1)).map (v, ·)
    | none => .error before

end DonationPage.Json
