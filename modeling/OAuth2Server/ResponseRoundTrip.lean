import OAuth2Server.AuthorizeExits
import OAuth2Server.Html

/-!
# Authorization responses read back

The parameters of an authorization response reach the client whatever the mode:
the decoder of the query, of the fragment and of the form each undoes the
encoder that `services/authorize_response.py` uses for it.
-/

namespace OAuth2Server.ResponseRoundTrip

open OAuth2Server JsonText Effects Interaction Interaction.Program
open FrontChannel AuthorizeResponse Authorize AuthorizeExits QueryText Url

set_option autoImplicit false

/-! ### Reading a response -/

/-- The parameters of a fragment, where `+` is no blank. -/
def readFragment (fragment : String) : List (String × String) :=
  readPairs unquote fragment.toList

def inputTag (pair : String × String) : Html.Tag where
  attributes := [("input type=", "hidden"), (" name=", pair.1), (" value=", pair.2)]
  rest := "/"

def formTag (redirectUri : String) : Html.Tag where
  attributes := [("form method=", "post"), (" action=", redirectUri)]
  rest := ""

def bodyTag : Html.Tag where
  attributes := [("body onload=", "document.forms[0].submit()")]
  rest := ""

/-- The tags of the form: one input a parameter, none besides. -/
def formTags (redirectUri : String) (params : List (String × String)) : List Html.Tag :=
  [Html.bareTag "!DOCTYPE html", Html.bareTag "html", bodyTag, formTag redirectUri] ++ params.map inputTag ++
    [Html.bareTag "/form", Html.bareTag "/body", Html.bareTag "/html"]

/-- The client finds `params` in a response of this mode. -/
def Carries (mode : ResponseMode) (redirectUri : String) (params : List (String × String))
    (response : Response) : Prop :=
  match mode with
  | .query => ∃ parts location, urlsplit redirectUri = some parts ∧
      response = { status := 302
                   headers := authResponseHeaders ++ [("location", location)]
                   body := .str "" } ∧
      parseQsl (String.ofList (queryOf location.toList)) = parseQsl parts.query ++ params ∧
      ∀ located, urlsplit location = some located →
        parseQsl located.query = parseQsl parts.query ++ params
  | .fragment => ∃ fragment,
      response = redirect 302 (redirectUri ++ "#" ++ fragment) authResponseHeaders ∧
      readFragment fragment = params ∧ '+' ∉ fragment.toList ∧ '#' ∉ fragment.toList
  | .formPost => ∃ body,
      response = { status := 200, headers := authResponseHeaders, body := .str body } ∧
      Html.tags body = formTags redirectUri params

/-! ### The query -/

theorem urlsplit_leading {url : String} {parts : SplitResult} (found : urlsplit url = some parts) :
    Leading parts.scheme.toList ∧ Leading parts.netloc.toList ∧ Leading parts.path.toList := by
  obtain ⟨front, rest, components⟩ := urlsplit_components found
  refine ⟨components.scheme, components.netloc, ?_, ?_⟩
  · rw [components.path]
    exact not_mem_before _ _
  · rw [components.path]
    intro member
    exact not_mem_before '#' rest (mem_before member)

theorem urlunsplit_query (scheme netloc path query : String) :
    urlunsplit scheme netloc path query =
      urlunsplit scheme netloc path "" ++ (if query != "" then "?" ++ query else "") := by
  unfold urlunsplit
  dsimp only
  cases query != "" with
  | false => simp
  | true => simp [String.append_assoc]

theorem leading_literals : Leading "//".toList ∧ Leading "/".toList ∧ Leading ":".toList := by
  unfold Leading
  decide

theorem urlunsplit_leading {scheme netloc path : String} (schemeLeading : Leading scheme.toList)
    (netlocLeading : Leading netloc.toList) (pathLeading : Leading path.toList) :
    Leading (urlunsplit scheme netloc path "").toList := by
  obtain ⟨slashes, slash, colon⟩ := leading_literals
  have rooted : Leading (("//" : String) ++ path).toList := by
    rw [String.toList_append]
    exact slashes.append pathLeading
  have placed : ∀ url : String, Leading url.toList →
      Leading (if scheme != "" then scheme ++ ":" ++ url else url).toList := by
    intro url leading
    split
    · rw [String.toList_append, String.toList_append]
      exact (schemeLeading.append colon).append leading
    · exact leading
  unfold urlunsplit
  apply placed
  split
  · rw [String.toList_append, String.toList_append]
    apply (slashes.append netlocLeading).append
    split
    · exact pathLeading
    · rw [String.toList_append]
      exact slash.append pathLeading
  · split
    · exact rooted
    · split
      · exact rooted
      · exact pathLeading

/-- Percent-encoding adds no delimiter. -/
theorem quote_leading {text : String} (leading : Leading text.toList) :
    Leading (quote safeInLocation text).toList := by
  constructor
  · intro member
    rcases mem_quote member with unreserved | percent | kept
    · revert unreserved
      decide
    · revert percent
      decide
    · exact leading.1 kept.2
  · intro member
    rcases mem_quote member with unreserved | percent | kept
    · revert unreserved
      decide
    · revert percent
      decide
    · exact leading.2 kept.2

/-- What `urlencode` writes stays as it is in a location. -/
theorem quote_urlencode (pairs : List (String × String)) :
    quote safeInLocation (urlencode pairs) = urlencode pairs := by
  apply quote_unchanged
  intro char member
  rcases mem_urlencode member with plain | rfl | rfl
  · simp only [isPlain, Bool.or_eq_true, beq_iff_eq] at plain
    rcases plain with (unreserved | rfl) | rfl
    · exact .inl unreserved
    · exact .inr (by decide)
    · exact .inr (by decide)
  · exact .inr (by decide)
  · exact .inr (by decide)

theorem visible_kept {char : Char}
    (kept : isUnreserved char = true ∨ char = '%' ∨ safeInLocation char = true) :
    32 < char.toNat := by
  by_contra small
  have each : ∀ code : Fin 33, ¬(isUnreserved (Char.ofNat code) = true ∨ Char.ofNat code = '%' ∨
      safeInLocation (Char.ofNat code) = true) := by decide
  have here := each ⟨char.toNat, by omega⟩
  rw [Char.ofNat_toNat] at here
  exact here kept

/-- Nothing in a location is removed before it is split. -/
theorem cleaned_quote (text : String) :
    cleaned (quote safeInLocation text) = (quote safeInLocation text).toList := by
  have visible : ∀ char ∈ (quote safeInLocation text).toList, 32 < char.toNat := by
    intro char member
    apply visible_kept
    rcases mem_quote member with unreserved | percent | kept
    · exact .inl unreserved
    · exact .inr (.inl percent)
    · exact .inr (.inr kept.1)
  generalize (quote safeInLocation text) = location at visible
  have whole : (location.toList.dropWhile fun char => decide (char.toNat ≤ 32)) =
      location.toList := by
    cases spelled : location.toList with
    | nil => rfl
    | cons char rest =>
        have first := visible char (by rw [spelled]; exact List.mem_cons_self)
        rw [List.dropWhile_cons, if_neg (by simp; omega)]
  unfold cleaned
  rw [whole, List.filter_eq_self]
  intro char member
  have large := visible char member
  have other : char ≠ '\t' ∧ char ≠ '\r' ∧ char ≠ '\n' := by
    refine ⟨?_, ?_, ?_⟩
    all_goals
      rintro rfl
      revert large
      decide
  simp [other]

theorem urlencode_unfragmented (pairs : List (String × String)) :
    '#' ∉ (urlencode pairs).toList := by
  intro member
  rcases mem_urlencode member with plain | same | same
  · revert plain
    decide
  · cases same
  · cases same

/-- The query of the location is what `urlencode` wrote. -/
theorem query_location_reads {parts : SplitResult} (params : List (String × String))
    (scheme : Leading parts.scheme.toList) (netloc : Leading parts.netloc.toList)
    (path : Leading parts.path.toList) :
    queryOf (quote safeInLocation (queryLocation parts params)).toList =
      (urlencode (parseQsl parts.query ++ params)).toList := by
  have base := quote_leading (urlunsplit_leading scheme netloc path)
  have unfragmented := urlencode_unfragmented (parseQsl parts.query ++ params)
  have same := quote_urlencode (parseQsl parts.query ++ params)
  have mark : quote safeInLocation "?" = "?" := by decide
  unfold queryLocation queryOf
  rw [urlunsplit_query, quote_append, String.toList_append, before_front base.2,
    after_front base.1]
  generalize urlencode (parseQsl parts.query ++ params) = query at unfragmented same ⊢
  split
  · have marked : '#' ∉ '?' :: query.toList := by simpa using unfragmented
    have spelled : ("?" ++ query).toList = '?' :: query.toList := by
      rw [String.toList_append]
      rfl
    rw [quote_append, mark, same, spelled, before_absent marked]
    rfl
  · rename_i empty
    have none : query = "" := by simpa using empty
    rw [none]
    rfl

theorem carries_query {redirectUri : String} {parts : SplitResult}
    (found : urlsplit redirectUri = some parts) (params : List (String × String)) :
    Carries .query redirectUri params
      (redirect 302 (queryLocation parts params) authResponseHeaders) := by
  obtain ⟨scheme, netloc, path⟩ := urlsplit_leading found
  have reads := query_location_reads params scheme netloc path
  refine ⟨parts, _, found, rfl, ?_, ?_⟩
  · rw [reads, String.ofList_toList, parse_qsl_urlencode]
  · intro located split
    have query := urlsplit_query split
    rw [cleaned_quote, reads] at query
    rw [String.toList_inj.1 query, parse_qsl_urlencode]

/-! ### The fragment -/

theorem urlencode_quote_eq (params : List (String × String)) :
    (urlencodeQuote params).toList =
      joinPairs (fun text => (quote (fun _ => false) text).toList) params := by
  unfold urlencodeQuote joinPairs
  rw [String.toList_intercalate, List.map_map]
  congr 1
  apply List.map_congr_left
  intro pair _
  simp [joinPair, String.toList_append]

/-- No delimiter of a fragment survives in a name or a value. -/
theorem quote_hides {text : String} {char : Char}
    (member : char ∈ (quote (fun _ => false) text).toList) :
    char ≠ '&' ∧ char ≠ '=' ∧ char ≠ '+' ∧ char ≠ '#' := by
  rcases mem_quote member with unreserved | rfl | kept
  · refine ⟨?_, ?_, ?_, ?_⟩
    all_goals
      rintro rfl
      revert unreserved
      decide
  · decide
  · cases kept.1

theorem carries_fragment (redirectUri : String) (params : List (String × String)) :
    Carries .fragment redirectUri params
      (redirect 302 (redirectUri ++ "#" ++ urlencodeQuote params) authResponseHeaders) := by
  have absent : ∀ char, char = '+' ∨ char = '#' → char ∉ (urlencodeQuote params).toList := by
    intro char delimiter member
    rw [urlencode_quote_eq] at member
    rcases mem_join_pairs member with rfl | rfl | ⟨text, inText⟩
    · revert delimiter
      decide
    · revert delimiter
      decide
    · have hidden := quote_hides inText
      exact delimiter.elim hidden.2.2.1 hidden.2.2.2
  refine ⟨urlencodeQuote params, rfl, ?_, absent '+' (.inl rfl), absent '#' (.inr rfl)⟩
  unfold readFragment
  rw [urlencode_quote_eq]
  apply read_join_pairs
  · intro text char member
    exact ⟨(quote_hides member).1, (quote_hides member).2.1⟩
  · intro text
    rw [String.ofList_toList]
    exact unquote_quote rfl text

/-! ### The form -/

theorem html_escape_attr_eq (value : String) :
    (htmlEscapeAttr value).toList = Html.escape value.toList := by
  unfold htmlEscapeAttr Html.escape
  rw [String.toList_join, List.flatMap_map]
  congr 1
  funext char
  unfold Html.escapeChar
  simp only [beq_iff_eq]
  split
  · rfl
  split
  · rfl
  split
  · rfl
  split
  · rfl
  split
  · rfl
  · simp

/-- The text up to the inputs, and the text after them. -/
def formHead (redirectUri : String) : List (Html.Tag × String) :=
  [(Html.bareTag "!DOCTYPE html", "\n"), (Html.bareTag "html", ""), (bodyTag, "\n"),
    (formTag redirectUri, "\n")]

def formTail : List (Html.Tag × String) :=
  [(Html.bareTag "/form", ""), (Html.bareTag "/body", ""), (Html.bareTag "/html", "")]

theorem form_head_written (redirectUri : String) :
    Html.writeDocument (formHead redirectUri) =
      "<!DOCTYPE html>\n".toList ++ "<html><body onload=\"document.forms[0].submit()\">\n".toList ++
        "<form method=\"post\" action=\"".toList ++ Html.escape redirectUri.toList ++
        "\">\n".toList := by
  have opening : Html.writeDocument
      [(Html.bareTag "!DOCTYPE html", "\n"), (Html.bareTag "html", ""), (bodyTag, "\n")] =
      "<!DOCTYPE html>\n".toList ++
        "<html><body onload=\"document.forms[0].submit()\">\n".toList := rfl
  have before : '<' :: Html.writeAttribute ("form method=", "post") ++ " action=".toList ++ ['"'] =
      "<form method=\"post\" action=\"".toList := rfl
  have split : Html.writeDocument (formHead redirectUri) =
      Html.writeDocument [(Html.bareTag "!DOCTYPE html", "\n"), (Html.bareTag "html", ""), (bodyTag, "\n")] ++
        (Html.writeTag (formTag redirectUri) ++ "\n".toList) := by
    simp [Html.writeDocument, formHead]
  have tag : Html.writeTag (formTag redirectUri) ++ "\n".toList =
      ('<' :: Html.writeAttribute ("form method=", "post") ++ " action=".toList ++ ['"']) ++
        Html.escape redirectUri.toList ++ "\">\n".toList := by
    simp [Html.writeTag, formTag, Html.writeAttribute]
  rw [split, opening, tag, before]
  simp only [List.append_assoc]

def inputText (pair : String × String) : String :=
  "<input type=\"hidden\" name=\"" ++ htmlEscapeAttr pair.1 ++ "\" value=\"" ++
    htmlEscapeAttr pair.2 ++ "\"/>"

theorem input_written (pair : String × String) :
    (inputText pair).toList = Html.writeTag (inputTag pair) := by
  have before : "<input type=\"hidden\" name=\"".toList =
      '<' :: Html.writeAttribute ("input type=", "hidden") ++ " name=".toList ++ ['"'] := rfl
  unfold inputText
  simp only [String.toList_append, html_escape_attr_eq, before]
  simp [Html.writeTag, inputTag, Html.writeAttribute]

theorem form_body_written (redirectUri : String) (params : List (String × String)) :
    (formPostBody redirectUri params).toList =
      Html.writeDocument (formHead redirectUri) ++
        (List.intercalate ['\n'] ((params.map inputTag).map Html.writeTag) ++
          (['\n'] ++ (Html.writeDocument formTail ++ []))) := by
  have closing : ("</form></body></html>" : String).toList = Html.writeDocument formTail := rfl
  have newline : "\n".toList = ['\n'] := by decide
  have inputs : (params.map inputText).map String.toList =
      (params.map inputTag).map Html.writeTag := by
    rw [List.map_map, List.map_map]
    exact List.map_congr_left fun pair _ => input_written pair
  have body : formPostBody redirectUri params =
      "<!DOCTYPE html>\n" ++ "<html><body onload=\"document.forms[0].submit()\">\n" ++
        "<form method=\"post\" action=\"" ++ htmlEscapeAttr redirectUri ++ "\">\n" ++
        "\n".intercalate (params.map inputText) ++ "\n" ++ "</form></body></html>" := by
    have folded : (fun pair : String × String => "<input type=\"hidden\" name=\"" ++
        htmlEscapeAttr pair.1 ++ "\" value=\"" ++ htmlEscapeAttr pair.2 ++ "\"/>") = inputText := rfl
    unfold formPostBody
    rw [folded]
  rw [body, form_head_written, ← inputs]
  simp only [String.toList_append, String.toList_intercalate, html_escape_attr_eq, closing,
    List.append_assoc, List.append_nil, newline]

theorem carries_form (redirectUri : String) (params : List (String × String)) :
    Html.tags (formPostBody redirectUri params) = formTags redirectUri params := by
  have head : ∀ part ∈ formHead redirectUri,
      part.1.Plain ∧ ∀ char ∈ part.2.toList, char ≠ '<' := by
    have first : ∀ part ∈
        [(Html.bareTag "!DOCTYPE html", "\n"), (Html.bareTag "html", ""), (bodyTag, "\n")],
        part.1.Plain ∧ ∀ char ∈ part.2.toList, char ≠ '<' := by
      unfold Html.Tag.Plain
      decide
    have markup : ∀ text ∈ ["", "form method=", " action="],
        ∀ char ∈ text.toList, char ≠ '>' ∧ char ≠ '"' := by decide
    have newline : ∀ char ∈ "\n".toList, char ≠ '<' := by decide
    intro part member
    rcases List.mem_append.1 (show part ∈ [(Html.bareTag "!DOCTYPE html", "\n"), (Html.bareTag "html", ""),
      (bodyTag, "\n")] ++ [(formTag redirectUri, "\n")] from member) with early | last
    · exact first part early
    · rw [List.mem_singleton.1 last]
      exact ⟨markup, newline⟩
  have tail : ∀ part ∈ formTail, part.1.Plain ∧ ∀ char ∈ part.2.toList, char ≠ '<' := by
    unfold Html.Tag.Plain
    decide
  have inputs : ∀ tag ∈ params.map inputTag, tag.Plain := by
    have markup : ∀ text ∈ ["/", "input type=", " name=", " value="],
      ∀ char ∈ text.toList, char ≠ '>' ∧ char ≠ '"' := by decide
    intro tag member
    obtain ⟨pair, _, rfl⟩ := List.mem_map.1 member
    exact markup
  have newline : ∀ char ∈ ['\n'], char ≠ '<' := by decide
  unfold Html.tags
  rw [form_body_written, Html.tags_from_document head, Html.tags_from_joined newline inputs,
    Html.tags_from_data newline, Html.tags_from_document tail]
  rfl

/-! ### Every response -/

/-- The outcome is a response that carries the parameters, or a URI that cannot be split. -/
def Delivers (mode : ResponseMode) (redirectUri : String) (params : List (String × String))
    (outcome : Except Raised Response) : Prop :=
  (urlsplit redirectUri = none ∧ outcome = .error .other) ∨
    ∃ response, outcome = .ok response ∧ Carries mode redirectUri params response

theorem deliver_delivers {redirectUri : String} (unfragmented : '#' ∉ redirectUri.toList)
    (mode : ResponseMode) (params : List (String × String)) :
    Delivers mode redirectUri params (deliver mode redirectUri params) := by
  unfold deliver
  cases found : urlsplit redirectUri with
  | none => exact .inl ⟨found, rfl⟩
  | some parts =>
      have empty := urlsplit_no_fragment found unfragmented
      dsimp only
      rw [empty]
      right
      cases mode with
      | query => exact ⟨_, rfl, carries_query found params⟩
      | fragment => exact ⟨_, rfl, carries_fragment redirectUri params⟩
      | formPost => exact ⟨_, rfl, _, rfl, carries_form redirectUri params⟩

/-- The parameters of a success, in the order of the mode. -/
def successParams (mode : ResponseMode) (code : String) (state : Option String) (iss : String)
    (idToken : Option String) : List (String × String) :=
  match mode with
  | .query => ("code", code) :: (givenPair "state" state ++ ("iss", iss) :: givenPair "id_token" idToken)
  | _ => ("code", code) :: ("iss", iss) :: (givenPair "state" state ++ givenPair "id_token" idToken)

/-- The parameters of an error, in the order of the mode. -/
def errorParams (mode : ResponseMode) (error : String) (description state : Option String)
    (iss : String) : List (String × String) :=
  match mode with
  | .query => ("error", error) :: (givenPair "error_description" description ++
      (givenPair "state" state ++ [("iss", iss)]))
  | _ => ("error", error) :: (givenPair "error_description" description ++
      ("iss", iss) :: givenPair "state" state)

theorem present_cons (name : String) (value : Option String)
    (pairs : List (String × Option String)) :
    present ((name, value) :: pairs) = givenPair name value ++ present pairs := by
  cases value <;> rfl

theorem success_response_delivers (mode : ResponseMode) (redirectUri code : String)
    (state : Option String) (iss : String) (idToken : Option String) :
    successResponse mode redirectUri code state iss idToken =
      deliver mode redirectUri (successParams mode code state iss idToken) := by
  have none : present [] = [] := rfl
  unfold successResponse successParams
  cases mode <;> simp [present_cons, none, givenPair]

theorem error_response_delivers (mode : ResponseMode) (redirectUri error : String)
    (description state : Option String) (iss : String) :
    errorResponse mode redirectUri error description state iss =
      deliver mode redirectUri (errorParams mode error description state iss) := by
  have none : present [] = [] := rfl
  unfold errorResponse errorParams
  cases mode <;> simp [present_cons, none, givenPair]

/-- Whatever the texts and the mode, the client reads the parameters it was sent. No
identity token is sent in a query. -/
theorem responses_round_trip (redirectUri : String) (unfragmented : '#' ∉ redirectUri.toList)
    (mode : ResponseMode) :
    (∀ code state iss idToken, Delivers mode redirectUri (successParams mode code state iss idToken)
        (successResponse mode redirectUri code state iss idToken)) ∧
      (∀ error description state iss,
        Delivers mode redirectUri (errorParams mode error description state iss)
          (errorResponse mode redirectUri error description state iss)) ∧
      ∀ front query state, Exits front query state
        ((authorize front.env query).respond front.interp state).1 := by
  refine ⟨?_, ?_, authorize_exits⟩
  · intro code state iss idToken
    rw [success_response_delivers]
    exact deliver_delivers unfragmented mode _
  · intro error description state iss
    rw [error_response_delivers]
    exact deliver_delivers unfragmented mode _

theorem callback_round_trips :
    Delivers .query "https://app.example/cb?tab=1" [("code", "a&b+c"), ("iss", "https://as.example")]
      (successResponse .query "https://app.example/cb?tab=1" "a&b+c" none "https://as.example"
        none) :=
  (responses_round_trip "https://app.example/cb?tab=1" (by decide +kernel) .query).1 "a&b+c" none
    "https://as.example" none

end OAuth2Server.ResponseRoundTrip
