import DonationPage.Intent
import DonationPage.Proofs.Json.Integer
import DonationPage.Proofs.Json.Text
/-! What a page's tags must hold for a donation to be described by them. Each tag that the kind of
donation needs holds the JSON text of a value that makes sense; no other tag matters. -/
namespace DonationPage

open Json

namespace TagSource

def HoldsText (source : TagSource) (id s : String) : Prop :=
  ∃ text body, source id = some text ∧ AmongSpaces text ('"' :: body ++ ['"']) ∧
    Spells body s.toList

def HoldsInteger (source : TagSource) (id : String) (n : Int) : Prop :=
  ∃ text literal, source id = some text ∧ AmongSpaces text literal ∧ IntegerLiteral literal n

def HoldsOptional (source : TagSource) (id : String) : Option String → Prop
  | none => source id = none
  | some s => source.HoldsText id s

variable {source : TagSource} {id : String}

theorem payload_eq_ok {α : Type} [Payload α] {a : α} : source.payload α id = .ok a ↔
    ∃ text, source id = some text ∧ (readPayload α).run text = .ok a := by
  unfold payload read
  cases source id with
  | none => simp
  | some text =>
    simp only [Option.some.injEq, exists_eq_left']
    cases (readPayload α).run text <;> simp

theorem payload_eq_error {α : Type} [Payload α] {failure : Failure}
    (refused : source.payload α id = .error failure) : ∃ fault, failure = .setup fault := by
  unfold payload read at refused
  grind

theorem payload_congr {α : Type} [Payload α] {other : TagSource} (same : other id = source id) :
    other.payload α id = source.payload α id := by
  rw [payload, payload, read, read, same]

theorem payload_text_eq_ok {s : String} :
    source.payload String id = .ok s ↔ source.HoldsText id s := by
  simp only [payload_eq_ok, decode_text_eq_ok, HoldsText, exists_and_left]

theorem payload_int64_eq_ok {a : Int64} :
    source.payload Int64 id = .ok a ↔ source.HoldsInteger id a.toInt := by
  simp only [payload_eq_ok, decode_int64_eq_ok, HoldsInteger, exists_and_left]

end TagSource

def DonationKind.tags : DonationKind → List String
  | oneTime => ["fund-id", "amount", "bco-name"]
  | recurring => ["fund-id", "plan-id", "provider-plan-id", "bco-name"]

namespace Intent

theorem oneTime_eq_ok {fund : String} {amount : Money} {i : Intent} :
    oneTime fund amount = .ok i ↔ isBlankText fund = false ∧ 0 < amount.cents ∧
      i = ⟨.oneTime, fund, none, some amount, none, none⟩ := by
  unfold oneTime
  split
  · rename_i blank
    simp [blank]
  · rename_i visible
    split
    · rename_i small
      simp [Int64.not_lt.mpr small]
    · rename_i large
      simp [visible, Int64.not_le.mp large, eq_comm]

theorem recurring_eq_ok {fund plan providerPlan : String} {i : Intent} :
    recurring fund plan providerPlan = .ok i ↔
      isBlankText fund = false ∧ isBlankText plan = false ∧ isBlankText providerPlan = false ∧
        i = ⟨.recurring, fund, some plan, none, some providerPlan, none⟩ := by
  unfold recurring
  cases isBlankText fund <;> cases isBlankText plan <;> cases isBlankText providerPlan <;>
    simp [eq_comm]

inductive Described (source : TagSource) : Intent → Prop
  | oneTime {fund : String} {cents : Int64} {bcoName? : Option String}
      (ofFund : source.HoldsText "fund-id" fund) (named : isBlankText fund = false)
      (ofAmount : source.HoldsInteger "amount" cents.toInt) (positive : 0 < cents)
      (ofBco : source.HoldsOptional "bco-name" bcoName?) :
      Described source ⟨.oneTime, fund, none, some ⟨cents⟩, none, bcoName?⟩
  | recurring {fund plan providerPlan : String} {bcoName? : Option String}
      (ofFund : source.HoldsText "fund-id" fund) (named : isBlankText fund = false)
      (ofPlan : source.HoldsText "plan-id" plan) (planned : isBlankText plan = false)
      (ofProviderPlan : source.HoldsText "provider-plan-id" providerPlan)
      (priced : isBlankText providerPlan = false)
      (ofBco : source.HoldsOptional "bco-name" bcoName?) :
      Described source ⟨.recurring, fund, some plan, none, some providerPlan, bcoName?⟩

def loadBare (kind : DonationKind) (source : TagSource) : Except Failure Intent :=
  (source.payload String "fund-id").bind fun fund =>
    match kind with
    | .oneTime => (source.payload Int64 "amount").bind fun cents => oneTime fund ⟨cents⟩
    | .recurring =>
      (source.payload String "plan-id").bind fun plan =>
        (source.payload String "provider-plan-id").bind fun providerPlan =>
          recurring fund plan providerPlan

def addBcoName (source : TagSource) (i : Intent) : Except Failure Intent :=
  if (source "bco-name").isSome then
    (source.payload String "bco-name").bind fun name => .ok (i.withBcoName name)
  else .ok i

theorem load_eq (kind : DonationKind) (source : TagSource) :
    load kind source = (loadBare kind source).bind (addBcoName source) := by
  unfold load loadBare
  cases source.payload String "fund-id" with
  | error failure => rfl
  | ok fund =>
    cases kind with
    | oneTime => cases source.payload Int64 "amount" <;> rfl
    | recurring =>
      cases source.payload String "plan-id" with
      | error failure => rfl
      | ok plan => cases source.payload String "provider-plan-id" <;> rfl

theorem addBcoName_eq_ok {source : TagSource} {bare i : Intent} (unnamed : bare.bcoName? = none) :
    addBcoName source bare = .ok i ↔
      ∃ bcoName?, source.HoldsOptional "bco-name" bcoName? ∧ i = { bare with bcoName? } := by
  unfold addBcoName
  cases tag : source "bco-name" with
  | none =>
    rw [if_neg (by simp), Except.ok.injEq]
    constructor
    · rintro rfl
      exact ⟨none, tag, by rw [← unnamed]⟩
    · rintro ⟨bcoName?, held, rfl⟩
      cases bcoName? with
      | none => rw [← unnamed]
      | some s =>
        obtain ⟨text, body, present, -⟩ := held
        cases tag.symm.trans present
  | some text =>
    rw [if_pos Option.isSome_some, bind_eq_ok]
    constructor
    · rintro ⟨s, told, made⟩
      cases made
      exact ⟨some s, TagSource.payload_text_eq_ok.mp told, rfl⟩
    · rintro ⟨bcoName?, held, rfl⟩
      cases bcoName? with
      | none => cases tag.symm.trans held
      | some s => exact ⟨s, TagSource.payload_text_eq_ok.mpr held, rfl⟩

theorem loadBare_oneTime {source : TagSource} {i : Intent} :
    loadBare .oneTime source = .ok i ↔ ∃ fund cents, source.HoldsText "fund-id" fund ∧
      source.HoldsInteger "amount" (Int64.toInt cents) ∧ isBlankText fund = false ∧ 0 < cents ∧
      i = ⟨.oneTime, fund, none, some ⟨cents⟩, none, none⟩ := by
  simp only [loadBare, bind_eq_ok, TagSource.payload_text_eq_ok, TagSource.payload_int64_eq_ok,
    oneTime_eq_ok, exists_and_left]

theorem loadBare_recurring {source : TagSource} {i : Intent} :
    loadBare .recurring source = .ok i ↔ ∃ fund plan providerPlan,
      source.HoldsText "fund-id" fund ∧ source.HoldsText "plan-id" plan ∧
      source.HoldsText "provider-plan-id" providerPlan ∧ isBlankText fund = false ∧
      isBlankText plan = false ∧ isBlankText providerPlan = false ∧
      i = ⟨.recurring, fund, some plan, none, some providerPlan, none⟩ := by
  simp only [loadBare, bind_eq_ok, TagSource.payload_text_eq_ok, recurring_eq_ok, exists_and_left]

theorem load_eq_ok {kind : DonationKind} {source : TagSource} {i : Intent} :
    load kind source = .ok i ↔ i.kind = kind ∧ Described source i := by
  rw [load_eq, bind_eq_ok]
  constructor
  · rintro ⟨bare, loaded, added⟩
    cases kind with
    | oneTime =>
      obtain ⟨fund, cents, ofFund, ofAmount, named, positive, rfl⟩ := loadBare_oneTime.mp loaded
      obtain ⟨bcoName?, ofBco, rfl⟩ := (addBcoName_eq_ok rfl).mp added
      exact ⟨rfl, .oneTime ofFund named ofAmount positive ofBco⟩
    | recurring =>
      obtain ⟨fund, plan, providerPlan, ofFund, ofPlan, ofProviderPlan, named, planned, priced,
        rfl⟩ := loadBare_recurring.mp loaded
      obtain ⟨bcoName?, ofBco, rfl⟩ := (addBcoName_eq_ok rfl).mp added
      exact ⟨rfl, .recurring ofFund named ofPlan planned ofProviderPlan priced ofBco⟩
  · rintro ⟨rfl, described⟩
    cases described with
    | oneTime ofFund named ofAmount positive ofBco =>
      exact ⟨_, loadBare_oneTime.mpr ⟨_, _, ofFund, ofAmount, named, positive, rfl⟩,
        (addBcoName_eq_ok rfl).mpr ⟨_, ofBco, rfl⟩⟩
    | recurring ofFund named ofPlan planned ofProviderPlan priced ofBco =>
      exact ⟨_, loadBare_recurring.mpr ⟨_, _, _, ofFund, ofPlan, ofProviderPlan, named, planned,
        priced, rfl⟩, (addBcoName_eq_ok rfl).mpr ⟨_, ofBco, rfl⟩⟩

theorem load_eq_error {kind : DonationKind} {source : TagSource} {failure : Failure}
    (refused : load kind source = .error failure) : ∃ fault, failure = .setup fault := by
  rw [load_eq, bind_eq_error] at refused
  rcases refused with bare | ⟨i, -, added⟩
  · cases kind with
    | oneTime =>
      simp only [loadBare, bind_eq_error] at bare
      obtain fund | ⟨_, -, amount | ⟨_, -, made⟩⟩ := bare
      · exact TagSource.payload_eq_error fund
      · exact TagSource.payload_eq_error amount
      · unfold oneTime at made
        grind
    | recurring =>
      simp only [loadBare, bind_eq_error] at bare
      obtain fund | ⟨_, -, plan | ⟨_, -, providerPlan | ⟨_, -, made⟩⟩⟩ := bare
      · exact TagSource.payload_eq_error fund
      · exact TagSource.payload_eq_error plan
      · exact TagSource.payload_eq_error providerPlan
      · unfold recurring at made
        grind
  · unfold addBcoName at added
    split at added
    · obtain name | ⟨_, -, made⟩ := bind_eq_error.mp added
      · exact TagSource.payload_eq_error name
      · cases made
    · cases added

theorem load_congr {kind : DonationKind} {source other : TagSource}
    (agree : ∀ id ∈ kind.tags, other id = source id) : load kind other = load kind source := by
  have bcoName (same : other "bco-name" = source "bco-name") :
      addBcoName other = addBcoName source := by
    funext i
    rw [addBcoName, addBcoName, same, TagSource.payload_congr same]
  cases kind with
  | oneTime =>
    obtain ⟨fund, amount, bco⟩ : other "fund-id" = source "fund-id" ∧
        other "amount" = source "amount" ∧ other "bco-name" = source "bco-name" := by
      simpa [DonationKind.tags] using agree
    simp only [load_eq, loadBare, TagSource.payload_congr fund, TagSource.payload_congr amount,
      bcoName bco]
  | recurring =>
    obtain ⟨fund, plan, providerPlan, bco⟩ : other "fund-id" = source "fund-id" ∧
        other "plan-id" = source "plan-id" ∧
        other "provider-plan-id" = source "provider-plan-id" ∧
        other "bco-name" = source "bco-name" := by
      simpa [DonationKind.tags] using agree
    simp only [load_eq, loadBare, TagSource.payload_congr fund, TagSource.payload_congr plan,
      TagSource.payload_congr providerPlan, bcoName bco]

/-- A page is accepted for the donation that its tags describe, and for no other; a page whose tags
describe none of the kind is refused as badly set up. Other tags than those of the kind make no
difference. -/
theorem load_iff_described (kind : DonationKind) (source : TagSource) :
    (∀ i, load kind source = .ok i ↔ i.kind = kind ∧ Described source i) ∧
    ((¬∃ i, i.kind = kind ∧ Described source i) →
      ∃ fault, load kind source = .error (.setup fault)) ∧
    ∀ other : TagSource, (∀ id ∈ kind.tags, other id = source id) →
      load kind other = load kind source := by
  refine ⟨fun i => load_eq_ok, fun none => ?_, fun other agree => load_congr agree⟩
  cases loaded : load kind source with
  | error failure =>
    obtain ⟨fault, rfl⟩ := load_eq_error loaded
    exact ⟨fault, rfl⟩
  | ok i => exact absurd ⟨i, load_eq_ok.mp loaded⟩ none

end Intent

end DonationPage
