import DonationPage.Proofs.Text.Percent
import DonationPage.Text.FormData
/-! Form data and back. Neither an ampersand nor an equals sign is left in a name or a value that is
written, and a plus sign stands only for a space, so the pairs are found again as they were. -/
namespace DonationPage

/-- What percent-encoding leaves as it is in form data. The spaces among it become plus signs. -/
def isFormKept (c : Char) : Bool := isFormSafe c || c = ' '

theorem encodeFormPart_eq (cs : List Char) : encodeFormPart cs =
    (percentEncode isFormKept cs).map fun c => if c = ' ' then '+' else c := rfl

theorem not_mem_percentEncode_form {c : Char} (mark : c ∈ ['+', '&', '=']) (cs : List Char) :
    c ∉ percentEncode isFormKept cs := by
  intro member
  have kinds := (percentEncoded_percentEncode isFormKept cs).mem member
  unfold IsUpperHex at kinds
  simp only [List.mem_cons, List.not_mem_nil, or_false] at mark
  rcases mark with rfl | rfl | rfl
  all_goals exact absurd kinds (by decide)

theorem not_mem_encodeFormPart {c : Char} (mark : c ∈ ['&', '=']) (cs : List Char) :
    c ∉ encodeFormPart cs := by
  intro member
  rw [encodeFormPart_eq] at member
  obtain ⟨d, kept, written⟩ := List.mem_map.mp member
  split at written
  · subst written
    exact absurd mark (by decide)
  · subst written
    exact not_mem_percentEncode_form (List.mem_cons_of_mem _ mark) cs kept

theorem spaces_encodeFormPart (cs : List Char) :
    ((encodeFormPart cs).map fun c => if c = '+' then ' ' else c) =
      percentEncode isFormKept cs := by
  rw [encodeFormPart_eq, List.map_map]
  refine (List.map_congr_left ?_).trans (List.map_id _)
  intro c member
  have other : c ≠ '+' := by
    intro same
    exact not_mem_percentEncode_form (by decide) cs (same ▸ member)
  by_cases space : c = ' '
  · simp [space]
  · simp [space, other]

theorem decodeFormPart_encodeFormPart (cs : List Char) :
    decodeFormPart (encodeFormPart cs) = String.ofList cs := by
  have escapes : isFormKept '%' = false := by decide
  rw [decodeFormPart, spaces_encodeFormPart, percentDecode_percentEncode_self escapes,
    utf8Decode_utf8Encode]

theorem decodeFormPair_encodeFormPair (pair : String × String) :
    decodeFormPair (encodeFormPair pair) = pair := by
  have cut := cutAt_append (not_mem_encodeFormPart (c := '=') (by decide) pair.1.toList)
    (encodeFormPart pair.2.toList)
  rw [decodeFormPair, encodeFormPair, cut]
  dsimp only
  rw [Option.getD_some, decodeFormPart_encodeFormPart, decodeFormPart_encodeFormPart,
    String.ofList_toList, String.ofList_toList]

theorem not_mem_encodeFormPair (pair : String × String) : '&' ∉ encodeFormPair pair := by
  have name := not_mem_encodeFormPart (c := '&') (by decide) pair.1.toList
  have value := not_mem_encodeFormPart (c := '&') (by decide) pair.2.toList
  simp [encodeFormPair, name, value]

theorem decodeForm_encodeForm (pairs : List (String × String)) :
    decodeForm (encodeForm pairs) = pairs := by
  cases pairs with
  | nil => rfl
  | cons pair pairs =>
    have split : splitAt '&' (['&'].intercalate ((pair :: pairs).map encodeFormPair)) =
        (pair :: pairs).map encodeFormPair := by
      rw [List.map_cons, intercalate_cons, splitAt_eq_cons_iff]
      refine ⟨rfl, ?_⟩
      intro part member
      rw [← List.map_cons] at member
      obtain ⟨p, -, rfl⟩ := List.mem_map.mp member
      exact not_mem_encodeFormPair p
    have parts : ∀ part ∈ (pair :: pairs).map encodeFormPair, decide (part ≠ []) = true := by
      intro part member
      obtain ⟨p, -, rfl⟩ := List.mem_map.mp member
      simp [encodeFormPair]
    rw [decodeForm, encodeForm, String.toList_ofList, split, List.filter_eq_self.mpr parts,
      List.map_map]
    apply List.map_id''
    exact decodeFormPair_encodeFormPair

example : encodeForm [("name", "a b&c=é"), ("", "+")] = "name=a+b%26c%3D%C3%A9&=%2B" := by decide

end DonationPage
