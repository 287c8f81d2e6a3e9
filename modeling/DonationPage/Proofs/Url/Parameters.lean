import DonationPage.Proofs.Text.Percent
import DonationPage.Url.Parameters
import Mathlib.Data.Fintype.EquivFin
/-! Reading one more parameter from a URL. It is read as it was written behind a URL without a query
and without a fragment; behind any other it is lost. -/
namespace DonationPage

def decodeQueryPart (cs : List Char) : String := String.ofList (utf8Decode (percentDecode cs))

def queryParameter (part : List Char) : String × String :=
  (decodeQueryPart (cutAt '=' part).1, decodeQueryPart ((cutAt '=' part).2.getD []))

theorem queryParameters_eq (query : List Char) :
    queryParameters query = (splitAt '&' query).map queryParameter := rfl

theorem decodeQueryPart_encodeQueryValue (text : String) :
    decodeQueryPart (encodeQueryValue text).toList = text := by
  rw [decodeQueryPart, percentDecode_encodeQueryValue, utf8Decode_utf8Encode, String.ofList_toList]

theorem mark_mem_decodeQueryPart {cs : List Char} (mark : '?' ∈ cs) :
    '?' ∈ (decodeQueryPart cs).toList := by
  obtain ⟨before, after, rfl⟩ := List.append_of_mem mark
  have byte : utf8Bytes '?' = [0x3F] := by decide
  rw [decodeQueryPart, String.toList_ofList, percentDecode_append (by decide) (by decide), byte,
    List.singleton_append, utf8Decode_append_ascii _ (by decide)]
  exact List.mem_append_right _ List.mem_cons_self

theorem mark_mem_queryParameter {part : List Char} (mark : '?' ∈ part) :
    '?' ∈ (queryParameter part).1.toList ∨ '?' ∈ (queryParameter part).2.toList := by
  rw [queryParameter]
  have joined := (cutAt_spec '=' part).2
  cases cut : cutAt '=' part with
  | mk key value? =>
    rw [cut] at joined
    rw [joined, List.mem_append] at mark
    rcases mark with inKey | inValue
    · exact .inl (mark_mem_decodeQueryPart inKey)
    · cases value? with
      | none => cases inValue
      | some value =>
        have inValue : '?' ∈ value := List.mem_of_ne_of_mem (by decide) inValue
        exact .inr (mark_mem_decodeQueryPart inValue)

theorem not_mem_encodeQueryValue {c : Char} (escaped : isUnreserved c = false) (sign : c ≠ '%')
    (text : String) : c ∉ (encodeQueryValue text).toList := by
  intro member
  rcases isUnreserved_of_mem_encodeQueryValue member with plain | same
  · simp [escaped] at plain
  · exact sign same

theorem urlParameters_of_query {url : String} {before query : List Char}
    (hash : '#' ∉ url.toList) (cut : cutAt '?' url.toList = (before, some query)) :
    urlParameters url = queryParameters query := by
  rw [urlParameters, queryOf?, cutAt_of_not_mem hash, cut, Option.map_some, Option.getD_some]

section WithName

variable (path name : String)

def withName : String := path ++ "?name=" ++ encodeQueryValue name

def nameQuery : List Char := "name".toList ++ '=' :: (encodeQueryValue name).toList

theorem toList_withName : (withName path name).toList = path.toList ++ '?' :: nameQuery name := by
  simp [withName, nameQuery]

theorem not_mem_nameQuery {c : Char} (cuts : c ∈ ['#', '&']) : c ∉ nameQuery name := by
  obtain ⟨escaped, sign, other⟩ : isUnreserved c = false ∧ c ≠ '%' ∧ c ∉ "name=".toList := by
    simp only [List.mem_cons, List.not_mem_nil, or_false] at cuts
    rcases cuts with rfl | rfl <;> decide
  simpa [nameQuery, not_mem_encodeQueryValue escaped sign name] using other

variable {path}

theorem urlParameters_withName (mark : '?' ∉ path.toList) (hash : '#' ∉ path.toList) :
    urlParameters (withName path name) = [("name", name)] := by
  have noHash : '#' ∉ (withName path name).toList := by
    simp [toList_withName, hash, not_mem_nameQuery]
  have cut : cutAt '?' (withName path name).toList = (path.toList, some (nameQuery name)) := by
    rw [toList_withName, cutAt_append mark]
  rw [urlParameters_of_query noHash cut, queryParameters_eq,
    splitAt_of_not_mem (not_mem_nameQuery name (by decide)), List.map_singleton, queryParameter,
    nameQuery, cutAt_append (by decide), Option.getD_some, decodeQueryPart_encodeQueryValue]
  rfl

theorem urlParameters_of_hash (hash : '#' ∈ path.toList) :
    urlParameters (withName path name) = urlParameters path := by
  obtain ⟨before, after, cut, longer⟩ := exists_cutAt_of_mem hash
  rw [urlParameters, urlParameters, queryOf?, queryOf?, toList_withName, longer, cut]

theorem mem_urlParameters_of_mark (mark : '?' ∈ path.toList) (hash : '#' ∉ path.toList)
    (markless : '?' ∉ name.toList) (member : ("name", name) ∈ urlParameters (withName path name)) :
    ("name", name) ∈ urlParameters path := by
  have noHash : '#' ∉ (withName path name).toList := by
    simp [toList_withName, hash, not_mem_nameQuery]
  obtain ⟨before, query, cut, longer⟩ := exists_cutAt_of_mem mark
  have cutLonger := toList_withName path name ▸ longer ('?' :: nameQuery name)
  obtain ⟨parts, last, split, splitLonger⟩ := exists_splitAt_append '&' query
  have noAnd : '&' ∉ '?' :: nameQuery name := by simp [not_mem_nameQuery]
  rw [urlParameters_of_query noHash cutLonger, queryParameters_eq, splitLonger _ noAnd,
    List.map_append, List.mem_append, List.map_singleton, List.mem_singleton] at member
  rw [urlParameters_of_query hash cut, queryParameters_eq, split, List.map_append, List.mem_append]
  rcases member with earlier | joined
  · exact .inl earlier
  -- The part that the name is joined to holds a second question mark, which neither "name" nor the
  -- name itself does.
  · have inPart : '?' ∈ last ++ '?' :: nameQuery name := by simp
    rcases mark_mem_queryParameter inPart with inKey | inValue
    · rw [← joined] at inKey
      exact absurd (show '?' ∈ "name".toList from inKey) (by decide)
    · rw [← joined] at inValue
      exact absurd inValue markless

theorem exists_name_lost (lost : '?' ∈ path.toList ∨ '#' ∈ path.toList) :
    ∃ name, ("name", name) ∉ urlParameters (withName path name) := by
  -- A name that is as long as none of the values that the URL has already.
  obtain ⟨n, fresh⟩ := Infinite.exists_notMem_finset
    ((urlParameters path).map (·.2.length)).toFinset
  have absent : ("name", String.ofList (List.replicate n 'a')) ∉ urlParameters path := by
    intro member
    have length := List.mem_map_of_mem (f := (·.2.length)) member
    simp only [String.length_ofList, List.length_replicate] at length
    exact fresh (List.mem_toFinset.mpr length)
  refine ⟨String.ofList (List.replicate n 'a'), fun member => absent ?_⟩
  by_cases hash : '#' ∈ path.toList
  · rwa [urlParameters_of_hash _ hash] at member
  · have markless : '?' ∉ (String.ofList (List.replicate n 'a')).toList := by simp
    exact mem_urlParameters_of_mark _ (lost.resolve_right hash) hash markless member

end WithName

end DonationPage
