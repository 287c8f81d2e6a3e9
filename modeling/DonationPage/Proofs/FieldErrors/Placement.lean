import DonationPage.FieldErrors
import Mathlib.Algebra.BigOperators.Group.List.Basic
import Mathlib.Algebra.Ring.Nat
import Mathlib.Data.List.Induction
/-! The messages of a form, set beside its controls. Every message of the form has one place, beside
the control of its field or among the unmatched, and no message of another form has any. -/
namespace DonationPage

open Json

def InlineErrors.size (inline : InlineErrors) : Nat :=
  inline.byControl.size + inline.unmatched.length

namespace FieldErrors

def messages (e : FieldErrors) (form : String) : Table String := (e.form? form).getD .empty

def placeAll (controls : List String) (members : List (String × String)) : InlineErrors :=
  members.foldl (fun inline m => place controls inline m.1 m.2) ⟨.empty, []⟩

theorem mapOnto_eq (e : FieldErrors) (form : String) (controls : List String) :
    e.mapOnto form controls = placeAll controls (e.messages form).members := by
  unfold mapOnto messages
  cases e.form? form with
  | none => rfl
  | some fields => rfl

/-- The members are parted: those whose field is a control's, and the entries of the others. -/
def Parts (controls : List String) (members : List (String × String)) (inline : InlineErrors) :
    Prop :=
  inline.byControl.members = members.filter (fun m => m.1 ∈ controls) ∧
    inline.unmatched = (members.filter fun m => m.1 ∉ controls).map fun m => m.1 ++ ": " ++ m.2

section Parts

variable {controls : List String} {members : List (String × String)} {inline : InlineErrors}

theorem Parts.place (parts : Parts controls members inline) {field : String}
    (above : ∀ m ∈ members, m.1 < field) (message : String) :
    Parts controls (members ++ [(field, message)]) (place controls inline field message) := by
  obtain ⟨beside, unmatched⟩ := parts
  have below : ∀ m ∈ inline.byControl.members, m.1 < field := by
    intro m member
    rw [beside] at member
    exact above m (List.mem_filter.mp member).1
  by_cases matched : field ∈ controls
  · refine ⟨?_, by simp [FieldErrors.place, matched, unmatched]⟩
    have behind := insertMember_of_below below message
    rw [beside] at behind
    simp [FieldErrors.place, matched, Table.insert, beside, behind]
  · exact ⟨by simp [FieldErrors.place, matched, beside],
      by simp [FieldErrors.place, matched, unmatched]⟩

theorem parts_placeAll (ascending : Ascending members) :
    Parts controls members (placeAll controls members) := by
  induction members using List.reverseRecOn with
  | nil => exact ⟨rfl, rfl⟩
  | append_singleton members m ih =>
    obtain ⟨earlier, -, above⟩ := List.pairwise_append.mp ascending
    rw [placeAll, List.foldl_append]
    exact (ih earlier).place (fun other member => above other member m List.mem_cons_self) m.2

theorem Parts.size_eq (parts : Parts controls members inline) : inline.size = members.length := by
  obtain ⟨beside, unmatched⟩ := parts
  have both := List.length_eq_length_filter_add (l := members) fun m => m.1 ∈ controls
  rw [InlineErrors.size, Table.size, beside, unmatched, List.length_map, both]
  simp

theorem placeAll_congr {controls' : List String}
    (agree : ∀ m ∈ members, m.1 ∈ controls' ↔ m.1 ∈ controls) :
    placeAll controls' members = placeAll controls members := by
  refine List.foldl_ext _ _ _ fun inline m member => ?_
  simp only [place, agree m member]

end Parts

theorem parts_mapOnto (e : FieldErrors) (form : String) (controls : List String) :
    Parts controls (e.messages form).members (e.mapOnto form controls) := by
  rw [mapOnto_eq]
  exact parts_placeAll (e.messages form).ascending

theorem messages_of_mem {e : FieldErrors} {form : String} {fields : Table String}
    (member : (form, fields) ∈ e.forms.members) : e.messages form = fields := by
  rw [messages, form?, Table.mem_members_iff.mp member, Option.getD_some]

theorem size_eq_sum (e : FieldErrors) :
    e.size = (e.forms.members.map fun m => m.2.size).sum := by
  rw [size, List.sum_eq_foldr, List.foldr_map]

/-- Beside the controls are the messages of the form whose field is a control's, and the others of the
form are unmatched, one entry for each in the order of their fields. Together they are as many as the
form has, and over all forms as many as there are, whatever the controls of each form. Only those
controls count that are a field's with a message, in any order and any number of times. -/
theorem mapOnto_parts (e : FieldErrors) :
    (∀ form controls, let inline := e.mapOnto form controls
      (∀ field, inline.byControl.get? field =
        if field ∈ controls then (e.messages form).get? field else none) ∧
      (∃ others, Ascending others ∧
        (∀ field message, (field, message) ∈ others ↔
          (e.messages form).get? field = some message ∧ field ∉ controls) ∧
        inline.unmatched = others.map fun m => m.1 ++ ": " ++ m.2) ∧
      inline.size = (e.form? form).elim 0 Table.size ∧
      ∀ controls', (∀ field message, (e.messages form).get? field = some message →
        (field ∈ controls' ↔ field ∈ controls)) → e.mapOnto form controls' = inline) ∧
    ∀ controls : String → List String,
      (e.forms.members.map fun m => (e.mapOnto m.1 (controls m.1)).size).sum = e.size := by
  refine ⟨fun form controls => ?_, fun controls => ?_⟩
  · intro inline
    have parts : Parts controls (e.messages form).members inline := e.parts_mapOnto form controls
    obtain ⟨beside, unmatched⟩ := parts
    refine ⟨fun field => ?_, ⟨_, ?_, fun field message => ?_, unmatched⟩, ?_, ?_⟩
    · rw [Table.get?, beside, findMember_filter (fun field => field ∈ controls)]
      simp [Table.get?]
    · exact (e.messages form).ascending.filter _
    · rw [List.mem_filter, Table.mem_members_iff, decide_eq_true_eq]
    · rw [(e.parts_mapOnto form controls).size_eq, messages]
      cases e.form? form with
      | none => rfl
      | some fields => rfl
    · intro controls' agree
      rw [mapOnto_eq, placeAll_congr fun m member => agree m.1 m.2 (Table.mem_members_iff.mp member)]
      exact (mapOnto_eq e form controls).symm
  · rw [size_eq_sum]
    congr 1
    refine List.map_congr_left fun m member => ?_
    rw [(e.parts_mapOnto m.1 (controls m.1)).size_eq, messages_of_mem member, Table.size]

end FieldErrors

end DonationPage
