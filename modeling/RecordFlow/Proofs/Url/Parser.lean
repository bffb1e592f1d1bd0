import RecordFlow.Proofs.Text.Trimming
import RecordFlow.Proofs.Url.Path

/-!
# URLs of special schemes

What a URL that was read from text has, and which text around it does not count.  Under a special
scheme other than `file` the path starts with a slash, and no query holds a number sign.  Controls
and spaces at the ends of a text are not read; other white space is, so it counts whether it is
removed beforehand.
-/

namespace RecordFlow.Url

/-! ## Parts -/

theorem scheme_of_readAuthority {scheme : String} {isFollowed : Bool} {text rest : List Char}
    {url : Url} (h : readAuthority scheme isFollowed text = .ok (url, rest)) :
    url.scheme = scheme := by
  simp only [readAuthority] at h
  split at h
  case isTrue => cases h
  case isFalse =>
    split at h
    case h_1 => cases h
    case h_2 =>
      split at h
      case h_1 => cases h
      case h_2 =>
        cases h
        rfl

theorem readAfterSlashes_eq_ok {scheme : String} {isFollowed : Bool} {text : List Char} {url : Url}
    (h : readAfterSlashes scheme isFollowed text = .ok url) :
    url.scheme = scheme ∧ ∃ path, url.path = readPath scheme path := by
  simp only [readAfterSlashes] at h
  split at h
  case h_1 => cases h
  case h_2 found rest hfound =>
    have hscheme := scheme_of_readAuthority hfound
    cases h
    exact ⟨hscheme, _, rfl⟩

theorem scheme_of_readHierarchy {scheme : String} {isFollowed : Bool} {text : List Char}
    {url : Url} (h : readHierarchy scheme isFollowed text = .ok url) : url.scheme = scheme := by
  unfold readHierarchy at h
  split at h
  case isTrue => exact (readAfterSlashes_eq_ok h).1
  case isFalse =>
    split at h
    case h_1 => exact (readAfterSlashes_eq_ok h).1
    case h_2 =>
      cases h
      rfl
    case h_3 =>
      cases h
      rfl

theorem scheme_of_readFile {text : List Char} {url : Url} (h : readFile text = .ok url) :
    url.scheme = "file" := by
  rw [readFile] at h
  split at h
  case h_1 rest hrest =>
    simp only [readAfterFileSlashes] at h
    split at h
    case isTrue =>
      cases h
      rfl
    case isFalse =>
      split at h
      case isTrue =>
        cases h
        rfl
      case isFalse =>
        split at h
        case h_1 => cases h
        case h_2 =>
          cases h
          rfl
        case h_3 =>
          cases h
          rfl
  case h_2 =>
    cases h
    rfl

/-- The steps of reading a URL. -/
theorem parse_eq_ok {text : String} {url : Url} (h : parse text = .ok url) :
    ∃ scheme rest found, scanScheme? (trimmed text.toList) = some (scheme, rest) ∧
      (if scheme = "file" then readFile (cutTail scheme rest).1
        else readHierarchy scheme
          ((cutTail scheme rest).2.1.isSome || (cutTail scheme rest).2.2.isSome)
          (visible (cutTail scheme rest).1)) = .ok found ∧
      url = { found with
        query := (cutTail scheme rest).2.1, fragment := (cutTail scheme rest).2.2 } := by
  rw [parse] at h
  split at h
  case h_1 => cases h
  case h_2 scheme rest hscan =>
    simp only [beq_iff_eq] at h
    split at h
    case h_1 => cases h
    case h_2 found hfound =>
      exact ⟨scheme, rest, found, hscan, hfound, (Except.ok.inj h).symm⟩

/-- Under a special scheme other than `file` a URL has a path that starts with a slash. -/
theorem exists_rooted_of_parse {text : String} {url : Url} (h : parse text = .ok url)
    (hspecial : isSpecialScheme url.scheme = true) (hfile : url.scheme ≠ "file") :
    ∃ parts, url.path = .segments parts ∧ Rooted parts := by
  obtain ⟨scheme, rest, found, -, hfound, rfl⟩ := parse_eq_ok h
  split at hfound
  case isTrue => exact absurd (scheme_of_readFile hfound) hfile
  case isFalse =>
    have hscheme : isSpecialScheme scheme = true := scheme_of_readHierarchy hfound ▸ hspecial
    unfold readHierarchy at hfound
    rw [if_pos hscheme] at hfound
    obtain ⟨-, path, hpath⟩ := readAfterSlashes_eq_ok hfound
    obtain ⟨parts, hread, hrooted⟩ := exists_rooted_readPath hscheme path
    exact ⟨parts, hpath.trans hread, hrooted⟩

/-- A query ends where a number sign would begin the fragment. -/
theorem hash_not_mem_query {text : String} {url : Url} (h : parse text = .ok url) :
    '#' ∉ url.query.getD [] := by
  have hmark : ¬ IsPercentMark '#' := by decide
  have hkept (inSet : Char → Bool) (hset : inSet '#' = true) (query : List Char) :
      '#' ∉ percentEncode inSet query := fun hmem =>
    (mem_percentEncode hmem).elim (fun hraw => Bool.false_ne_true (hraw.2.symm.trans hset)) hmark
  obtain ⟨scheme, rest, found, -, -, rfl⟩ := parse_eq_ok h
  change '#' ∉ (cutTail scheme rest).2.1.getD []
  simp only [cutTail]
  cases (cutMark '?' (cutMark '#' rest).1).2 with
  | none => exact List.not_mem_nil
  | some query =>
    rw [Option.map_some, Option.getD_some]
    split
    · exact hkept _ (by decide) _
    · exact hkept _ (by decide) _

/-! ## White space around -/

/-- The text ends, but for controls and spaces, in other white space. -/
def endsBlank (text : String) : Bool := (trimmed text.toList).getLast?.any Text.isBlankChar

theorem trimmed_eq_strip (text : List Char) :
    trimmed text = Text.strip (fun c => c.toNat ≤ 0x20) text :=
  rfl

/-- Removing white space first makes no difference where none but controls and spaces is at the
ends. -/
theorem trimmed_trimChars {text : List Char} (hne : trimmed text ≠ [])
    (hhead : Text.isBlankChar ((trimmed text).head hne) = false)
    (hlast : Text.isBlankChar ((trimmed text).getLast hne) = false) :
    trimmed (Text.trimChars text) = trimmed text := by
  obtain ⟨left, right, htext, hleft, hright⟩ :=
    Text.exists_around_strip (fun c : Char => c.toNat ≤ 0x20) text
  obtain ⟨hfirst, hend⟩ := Text.strip_ends hne
  rw [← trimmed_eq_strip] at htext
  calc trimmed (Text.trimChars text)
      = trimmed (Text.trimChars (left ++ trimmed text ++ right)) := by rw [← htext]
    _ = trimmed (left.dropWhile Text.isBlankChar ++ trimmed text ++
          (right.reverse.dropWhile Text.isBlankChar).reverse) := by
        rw [Text.trimChars_eq_strip, Text.strip_around hne hhead hlast]
    _ = trimmed text := by
        refine Text.strip_around_of_forall hne hfirst hend ?_ ?_
        · exact fun c hc => hleft c (List.dropWhile_subset _ hc)
        · intro c hc
          exact hright c (List.mem_reverse.1 (List.dropWhile_subset _ (List.mem_reverse.1 hc)))

/-- A text that is read begins with a letter. -/
theorem exists_letter_of_scanScheme? {text : List Char} {found : String × List Char}
    (h : scanScheme? text = some found) : ∃ c rest, text = c :: rest ∧ c.isAlpha = true := by
  cases text with
  | nil => cases h
  | cons c rest =>
    simp only [scanScheme?] at h
    split at h
    case isTrue halpha => exact ⟨c, rest, rfl, halpha⟩
    case isFalse => cases h

/-- A URL is read as well from a text without the white space around it. -/
theorem parse_trim {text : String} {url : Url} (h : parse text = .ok url)
    (hend : endsBlank text = false) : parse (Text.trim text) = .ok url := by
  obtain ⟨scheme, rest, -, hscan, -, -⟩ := parse_eq_ok h
  obtain ⟨c, tail, hcore, halpha⟩ := exists_letter_of_scanScheme? hscan
  have hne : trimmed text.toList ≠ [] := by
    rw [hcore]
    exact List.cons_ne_nil _ _
  -- What is read begins with a letter, so white space in front is never read.
  have hhead : Text.isBlankChar ((trimmed text.toList).head hne) = false := by
    have hcode := toNat_of_isAlpha halpha
    simp only [hcore, List.head_cons]
    exact Text.isBlankChar_of_shows (by omega)
  have hlast : Text.isBlankChar ((trimmed text.toList).getLast hne) = false := by
    rwa [endsBlank, List.getLast?_eq_some_getLast hne, Option.any_some] at hend
  have hsame : trimmed (Text.trim text).toList = trimmed text.toList := by
    rw [Text.trim, String.toList_ofList, trimmed_trimChars hne hhead hlast]
  rw [← h, parse, parse, hsame]

end RecordFlow.Url
