import RecordFlow.Bulk.Endpoint
import RecordFlow.Proofs.Url.Form
import RecordFlow.Proofs.Url.Parser

/-!
# The bulk endpoint extends its base

Every base with an HTTP URL has a bulk endpoint.  It differs from the URL of the base in its path,
which gets one more segment, and in its query, which is read as the pairs of the base and after them
the configured parameters, whatever characters these hold.
-/

namespace RecordFlow.Bulk

/-- Configured parameters are read after those of the query. -/
theorem queryMembers_withParams (query : Option (List Char)) (params : List (String × String)) :
    Url.queryMembers (withParams query params) = Url.queryMembers query ++ params := by
  rw [withParams]
  split
  case isTrue hempty => rw [List.isEmpty_iff.1 hempty, List.append_nil]
  case isFalse =>
    rw [Url.queryMembers_appendPairs]
    rfl

theorem hash_not_mem_withParams {query : Option (List Char)} (h : '#' ∉ query.getD [])
    (params : List (String × String)) : '#' ∉ (withParams query params).getD [] := by
  rw [withParams]
  split
  case isTrue => exact h
  case isFalse => exact Url.hash_not_mem_appendPairs h params

/-- A base with a bulk endpoint keeps everything but its path and its query. -/
theorem endpoint_eq_ok {base : String} {url : Url} {parts : List (List Char)}
    (hparse : Url.parse (Text.trim base) = .ok url) (hpath : url.path = .segments parts)
    (params : Dictionary String) :
    endpoint base params = .ok { url with
      path := .segments (Url.appendSegment parts "_bulk".toList)
      query := withParams url.query params.members } := by
  simp only [endpoint, hparse, hpath]

/-- Every base that has an HTTP URL, with or without the white space around it, has a bulk endpoint.
Only its path and its query differ from those of the URL.  Its query holds the pairs of the URL's
query and then the configured parameters, in the order of the bytes of their names.  Its path is
the URL's with one more segment, which takes the place of one slash at the end; the path of two
slashes counts as empty. -/
theorem endpoint_extends_url {base : String} {url : Url}
    (hurl : Url.parse (Text.trim base) = .ok url ∨
      (Url.parse base = .ok url ∧ Url.endsBlank base = false))
    (hscheme : url.scheme = "http" ∨ url.scheme = "https") (params : Dictionary String) :
    ∃ result, endpoint base params = .ok result ∧
      result = { url with path := result.path, query := result.query } ∧
      Url.queryMembers result.query = Url.queryMembers url.query ++ params.members ∧
      params.members.Pairwise (fun a b => Utf8.encode a.1 < Utf8.encode b.1) ∧
      '#' ∉ result.query.getD [] ∧
      (url.renderPath ≠ "//" → result.renderPath.toList =
        Url.lessSlash url.renderPath.toList ++ "/_bulk".toList) ∧
      (url.renderPath = "//" → result.renderPath = "/_bulk") := by
  have hparse : Url.parse (Text.trim base) = .ok url :=
    hurl.elim id fun hown => Url.parse_trim hown.1 hown.2
  have hspecial : Url.isSpecialScheme url.scheme = true ∧ url.scheme ≠ "file" := by
    rcases hscheme with h | h <;> rw [h] <;> decide
  obtain ⟨parts, hpath, hrooted⟩ := Url.exists_rooted_of_parse hparse hspecial.1 hspecial.2
  have horder : params.members.Pairwise fun a b => Utf8.encode a.1 < Utf8.encode b.1 :=
    params.ascending.imp fun h => Utf8.encode_lt_encode_iff.2 h
  have hrender : url.renderPath.toList = Url.renderSegments parts := by
    rw [Url.renderPath, hpath, String.toList_ofList]
  have hslashes : url.renderPath = "//" ↔ Url.renderSegments parts = ['/', '/'] := by
    rw [← String.toList_inj, hrender]
    rfl
  refine ⟨_, endpoint_eq_ok hparse hpath params, rfl, queryMembers_withParams _ _, horder,
    hash_not_mem_withParams (Url.hash_not_mem_query hparse) _, ?_, ?_⟩
  · intro hother
    rw [Url.renderPath, String.toList_ofList, hrender,
      Url.renderSegments_appendSegment hrooted fun h => hother (hslashes.2 h)]
    rfl
  · intro htwo
    have hparts := (Url.renderSegments_eq_slashes hrooted.slash_free).1 (hslashes.1 htwo)
    rw [Url.renderPath, hparts]
    rfl

/-- A base with all parts of a URL, and a wide space after it. -/
def securedBase : String := "https://ops:key@[::1]:9200/logs/?a=b%26c#top\u3000"

def securedUrl : Url :=
  { scheme := "https", username := "ops", password := "key"
    host := some (.ipv6 [0, 0, 0, 0, 0, 0, 0, 1]), port := some 9200
    path := .segments ["logs".toList, []]
    query := some "a=b%26c".toList, fragment := some "top".toList }

/-- Parameters with marks of a form in their names and values. -/
def markedParams : Dictionary String := .ofList [("x&y", "1=2#"), ("a+b", "%C3 \u00E9")]

theorem securedBase_extended :
    securedUrl.scheme = "https" ∧
    ∃ result, endpoint securedBase markedParams = .ok result ∧
      result = { securedUrl with path := result.path, query := result.query } ∧
      Url.queryMembers result.query =
        Url.queryMembers securedUrl.query ++ markedParams.members ∧
      markedParams.members.Pairwise (fun a b => Utf8.encode a.1 < Utf8.encode b.1) ∧
      '#' ∉ result.query.getD [] ∧
      (securedUrl.renderPath ≠ "//" → result.renderPath.toList =
        Url.lessSlash securedUrl.renderPath.toList ++ "/_bulk".toList) ∧
      (securedUrl.renderPath = "//" → result.renderPath = "/_bulk") :=
  ⟨rfl, endpoint_extends_url (.inl (by rfl)) (.inr rfl) markedParams⟩

example : (endpoint securedBase markedParams).map Url.render = .ok
    "https://ops:key@[::1]:9200/logs/_bulk?a=b%26c&a%2Bb=%25C3+%C3%A9&x%26y=1%3D2%23#top" := by
  rfl

/-- The path of a base may end in a wide space.  Its URL keeps that space; the endpoint does
not. -/
theorem endpoint_of_wideSpace :
    ∃ url result, Url.parse "http://[::1]/p\u3000" = .ok url ∧ url.scheme = "http" ∧
      endpoint "http://[::1]/p\u3000" .empty = .ok result ∧
      url.renderPath = "/p%E3%80%80" ∧ result.renderPath = "/p/_bulk" ∧
      result.renderPath.toList ≠ Url.lessSlash url.renderPath.toList ++ "/_bulk".toList :=
  ⟨{ scheme := "http", host := some (.ipv6 [0, 0, 0, 0, 0, 0, 0, 1])
     path := .segments ["p%E3%80%80".toList] },
    { scheme := "http", host := some (.ipv6 [0, 0, 0, 0, 0, 0, 0, 1])
      path := .segments ["p".toList, "_bulk".toList] },
    by rfl, rfl, by rfl, by rfl, by rfl, by decide⟩

end RecordFlow.Bulk
