import DonationPage.Proofs.Intent.Loading
import DonationPage.Proofs.Json.RoundTrip
import DonationPage.Proofs.MonthlySeries.Months
import DonationPage.Proofs.PageTags.Elements
/-! What a chart shows of monthly totals, point by point. A page that has the totals shows the same,
whether they stand in a tag of it or in its file, where the members of each come in another order. -/
namespace DonationPage

open Json

namespace MonthlyTotal

def members (t : MonthlyTotal) : List (String × Value) :=
  [("month", .scalar (.text t.month)), ("amount", .scalar (.int t.cents.toInt))]

/-- A total as a JSON value. The keys ascend, so the amount comes first. -/
def value (t : MonthlyTotal) : Value := .object t.members.reverse

def values (totals : List MonthlyTotal) : Value := .list (totals.map value)

def pageFile (totals : List MonthlyTotal) : String :=
  "\x7b\"monthly\":" ++ encode totals ++ "\x7d"

theorem addMembers_members (t : MonthlyTotal) : addMembers [] t.members = t.members.reverse := by
  have ascends : "amount" < "month" := by decide
  simp [members, addMembers, insertMember, ascends]

theorem write_value (t : MonthlyTotal) : t.value.write =
    writeObject ((t.members.map fun m => (m.1, m.2.write)).reverse.map fun m =>
      writeMember m.1 m.2) := by
  rw [value, Value.write, Value.writeMembers_eq, List.map_reverse, List.map_reverse, List.map_map]
  rfl

theorem takes_value : Takes (Payload.shape MonthlyTotal).read fun core v =>
    core = (value (Payload.ofVal v)).write where
  starts := by
    rintro core v rfl
    exact ⟨'\x7b', _, rfl, by decide, by decide⟩
  takes := by
    rintro core rest v rfl -
    rw [write_value]
    exact Shape.read_members (by decide) v (List.reverse_perm _) rest

theorem write_values (totals : List MonthlyTotal) : (values totals).write =
    writeList ((totals.map Payload.toVal).map fun v => (value (Payload.ofVal v)).write) := by
  rw [values, Value.write, Value.writeItems_eq, List.map_map, List.map_map]
  rfl

theorem decode_values (totals : List MonthlyTotal) :
    decode (List MonthlyTotal) (String.ofList (values totals).write) = .ok totals := by
  have read := readListValue_writeList takes_value (totals.map Payload.toVal) []
  rw [List.append_nil, ← write_values] at read
  exact decode_of_read read

theorem toList_encode (t : MonthlyTotal) : (encode t).toList =
    writeObject (t.members.map fun m => writeMember m.1 m.2.write) := by
  rw [encode, String.toList_ofList]
  rfl

theorem spelled_value (t : MonthlyTotal) (levels : Nat) :
    Value.Spelled (levels + 1) (encode t).toList t.value := by
  have below : t.cents.toInt < UInt64.size := Int.lt_trans t.cents.toInt_lt (by decide)
  have each : ∀ m ∈ t.members, Value.Spelled levels m.2.write m.2 := by
    intro m member
    simp only [members, List.mem_cons, List.not_mem_nil, or_false] at member
    rcases member with rfl | rfl
    · exact .scalar (Scalar.spelled_text t.month)
    · exact .scalar (Scalar.spelled_int t.cents.minValue_le_toInt below)
  rw [toList_encode, value, ← addMembers_members]
  exact .object rfl (membersFrom_separate each)

theorem spelled_values (totals : List MonthlyTotal) (levels : Nat) :
    Value.Spelled (levels + 2) (encode totals).toList (values totals) := by
  have each : ∀ t ∈ totals, Value.Spelled (levels + 1) (encode t).toList t.value :=
    fun t _ => t.spelled_value levels
  rw [toList_encode_list]
  exact .list rfl (itemsFrom_separate each).map

theorem spells_pageFile (totals : List MonthlyTotal) :
    PageTags.Spells (pageFile totals) [("monthly", values totals)] := by
  have written : (pageFile totals).toList =
      '\x7b' :: (writeMember "monthly" (encode totals).toList ++ ['\x7d']) := by
    simp [pageFile, writeMember]
    rfl
  have member : MembersFrom (Value.Spelled (Value.maxDepth - 1)) true
      (writeMember "monthly" (encode totals).toList ++ ['\x7d']) [("monthly", values totals)] :=
    membersFrom_writeMember (.start spaces_nil) (spelled_values totals 124) (.close spaces_nil)
  exact ⟨_, ⟨[], [], by simp [written], spaces_nil, spaces_nil⟩, member⟩

end MonthlyTotal

theorem Date.monthLabel_ne (d : Date) : d.monthLabel ≠ "" := by
  intro blank
  have empty := congrArg String.toList blank
  simp [monthLabel] at empty

namespace MonthlySeries

/-- What a chart of a series shows of totals: a point for each of them, in their order, and for each
point, but for nothing else, a label below it and a tooltip of that label and the amount. -/
structure Shows (s : MonthlySeries) (totals : List MonthlyTotal) : Prop where
  size : s.size = totals.length
  points : s.points = totals.map fun t => ⟨t.month, t.cents⟩
  labelled (i : Nat) : s.axisLabel i ≠ "" ↔ i < s.size
  explained (i : Nat) : (s.tooltipLabel? i).isSome = true ↔ i < s.size
  tooltip {i : Nat} {p : ChartPoint} : s.points[i]? = some p →
    s.tooltipLabel? i = some (s.axisLabel i ++ ": " ++ tickLabel p.y)

theorem lt_size_iff {s : MonthlySeries} {i : Nat} :
    i < s.size ↔ s.totals[i]?.isSome = true := by
  rw [isSome_getElem?, size]

theorem shows_own (s : MonthlySeries) : s.Shows (s.totals.map Prod.snd) where
  size := by rw [size, List.length_map]
  points := by rw [points, List.map_map]; rfl
  labelled i := by
    rw [lt_size_iff, axisLabel]
    cases s.totals[i]? with
    | none => simp
    | some p => simp [Date.monthLabel_ne]
  explained i := by
    rw [lt_size_iff, tooltipLabel?, Option.isSome_map]
  tooltip {i p} there := by
    rw [points, List.getElem?_map, Option.map_eq_some_iff] at there
    obtain ⟨t, there, rfl⟩ := there
    rw [axisLabel_eq there, tooltipLabel?, there]
    rfl

variable {totals : List MonthlyTotal} {s : MonthlySeries}

theorem totals_eq (made : ofTotals totals = .ok s) : s.totals.map Prod.snd = totals := by
  have same : List.Forall₂ (· = ·) totals (s.totals.map Prod.snd) :=
    List.forall₂_map_right_iff.mpr <| (ofTotals_eq_ok.mp made).imp fun _ _ dated =>
      (dated_eq_ok.mp dated).2.2.symm
  rw [List.forall₂_eq_eq_eq] at same
  exact same.symm

theorem shows_of_made (made : ofTotals totals = .ok s) : s.Shows totals := by
  have shows := s.shows_own
  rwa [totals_eq made] at shows

theorem exists_dated_iff {t : MonthlyTotal} :
    (∃ p, dated t = .ok p) ↔ ∃ date, readMonth t.month = .ok date := by
  unfold dated
  cases readMonth t.month <;> simp

theorem dated_eq_error_iff {t : MonthlyTotal} {failure : Failure} : dated t = .error failure ↔
    ∃ fault, readMonth t.month = .error fault ∧ failure = .setup (.month t.month fault) := by
  unfold dated
  cases readMonth t.month <;> simp [eq_comm]

theorem ofTotals_eq_error {failure : Failure} : ofTotals totals = .error failure ↔
    ∃ before t after fault, totals = before ++ t :: after ∧
      (∀ u ∈ before, ∃ date, readMonth u.month = .ok date) ∧
      readMonth t.month = .error fault ∧ failure = .setup (.month t.month fault) := by
  simp only [ofTotals, map_eq_error, mapM_eq_error, exists_dated_iff, dated_eq_error_iff,
    exists_and_left]

theorem load_of_decode {source : TagSource} {text : String} (there : source "monthly" = some text)
    (decoded : decode (List MonthlyTotal) text = .ok totals) : load source = ofTotals totals := by
  have read : source.payload (List MonthlyTotal) "monthly" = .ok totals :=
    TagSource.payload_eq_ok.mpr ⟨text, there, decoded⟩
  rw [load, read]
  rfl

theorem load_ofJson {text : String} {added : List (String × Value)}
    (spells : PageTags.Spells text added) (last : LastAt "monthly" (MonthlyTotal.values totals) added) :
    ∃ page, PageTags.ofJson text = .ok page ∧ load page.source = ofTotals totals := by
  obtain ⟨page, taken, elements⟩ := PageTags.source_ofJson spells
  obtain ⟨earlier, later, rfl, last⟩ := last
  have element : page.source "monthly" =
      some (String.ofList (MonthlyTotal.values totals).write) := by
    rw [elements, findMember_of_last last]
    rfl
  exact ⟨page, taken, load_of_decode element (MonthlyTotal.decode_values totals)⟩

/-- Totals make a series exactly when the month of each is read; the first month that is not is the
failure otherwise. The chart of the series shows the totals, index by index. A page gives the same
series or failure: from a tag with the JSON text of the totals, and from a page file that has them as a
JSON array, however it is spelled. All totals have such a file. -/
theorem ofTotals_shown (totals : List MonthlyTotal) :
    ((∃ s, ofTotals totals = .ok s) ↔ ∀ t ∈ totals, ∃ date, readMonth t.month = .ok date) ∧
    (∀ failure, ofTotals totals = .error failure ↔ ∃ before t after fault,
      totals = before ++ t :: after ∧ (∀ u ∈ before, ∃ date, readMonth u.month = .ok date) ∧
        readMonth t.month = .error fault ∧ failure = .setup (.month t.month fault)) ∧
    (∀ s, ofTotals totals = .ok s → s.Shows totals) ∧
    (∀ source : TagSource, source "monthly" = some (encode totals) →
      load source = ofTotals totals) ∧
    (∀ text added, PageTags.Spells text added →
      LastAt "monthly" (MonthlyTotal.values totals) added →
        ∃ page, PageTags.ofJson text = .ok page ∧ load page.source = ofTotals totals) ∧
    PageTags.Spells (MonthlyTotal.pageFile totals) [("monthly", MonthlyTotal.values totals)] := by
  refine ⟨?_, fun failure => ofTotals_eq_error, fun s => shows_of_made, fun source there => ?_,
    fun text added => load_ofJson, MonthlyTotal.spells_pageFile totals⟩
  · simp only [exists_series_iff, exists_dated_iff]
  · exact load_of_decode there (decode_encode rfl totals)

end MonthlySeries

end DonationPage
