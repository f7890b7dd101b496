import OAuth2Server.Logout
import OAuth2Server.JsonStrings
import OAuth2Server.ClientUris

/-!
# The texts of a logout read back

A logout embeds registered URLs in query strings, in attributes and in a
script. The attribute and the script hold any text. The query strings do not:
the iframe of a client opens a query although its URI may have one, and a URI
that the registration takes may hold a `#` before a character `urlsplit` drops.
-/

namespace OAuth2Server.LogoutTexts

open OAuth2Server Models JsonText Text Url QueryText Logout

set_option autoImplicit false

/-! ### Queries -/

theorem visible_quote (text : String) : ∀ char ∈ (quoteAll text).toList, 32 < char.toNat := by
  intro char member
  rcases mem_quote member with unreserved | rfl | kept
  · by_contra small
    have each : ∀ code : Fin 33, isUnreserved (Char.ofNat code) = false := by decide
    have here := each ⟨char.toNat, by omega⟩
    rw [Char.ofNat_toNat, unreserved] at here
    cases here
  · decide
  · cases kept.1

theorem quoted_partless (name : List Char) (value : String) (partless : '&' ∉ name) :
    '&' ∉ name ++ '=' :: (quoteAll value).toList := by
  intro member
  rcases List.mem_append.1 member with inName | inValue
  · exact partless inName
  · rcases List.mem_cons.1 inValue with same | quoted
    · cases same
    · rcases mem_quote quoted with unreserved | percent | kept
      · revert unreserved
        decide
      · cases percent
      · cases kept.1

/-- A name and its quoted value are one pair. -/
theorem read_quoted {name : List Char} (value : String) (partless : '&' ∉ name)
    (valueless : '=' ∉ name) :
    readPairs unquotePlus (name ++ '=' :: (quoteAll value).toList) =
      [(unquotePlus (String.ofList name), value)] := by
  have alone := quoted_partless name value partless
  have cut := before_append '=' name (quoteAll value).toList (by
    rintro char member rfl
    exact valueless member)
  have present : (name ++ '=' :: (quoteAll value).toList).isEmpty = false := by simp
  rw [read_pairs_single _ alone, present, cut.1, cut.2, String.ofList_toList]
  unfold quoteAll
  rw [unquote_plus_quote rfl rfl]
  rfl

/-- The parameters of a URL's query. -/
def queryPairs (url : String) : List (String × String) := parseQsl (urlQuery url)

theorem query_pairs_eq (url : String) :
    queryPairs url = readPairs unquotePlus (queryOf (cleaned url)) := by
  unfold queryPairs urlQuery parseQsl
  rw [String.toList_ofList]
  rfl

/-- Nothing is added to the query behind a `#`. -/
theorem query_pairs_fragment {url tail : String} (visible : ∀ char ∈ tail.toList, 32 < char.toNat)
    (fragment : '#' ∈ url.toList) : queryPairs (url ++ tail) = queryPairs url := by
  have present : '#' ∈ cleaned url := (mem_cleaned_iff (by decide)).2 fragment
  have cut := before_after present
  have same : before '#' (cleaned url ++ tail.toList) = before '#' (cleaned url) := by
    have whole : cleaned url ++ tail.toList =
        before '#' (cleaned url) ++ '#' :: (after '#' (cleaned url) ++ tail.toList) := by
      nth_rewrite 1 [cut]
      simp
    have front := not_mem_before '#' (cleaned url)
    rw [whole, (before_append '#' _ _ (by rintro char member rfl; exact front member)).1]
  rw [query_pairs_eq, query_pairs_eq, cleaned_append url visible]
  unfold queryOf
  rw [same]

/-- A URL without a query gets the one that is opened. -/
theorem query_pairs_opened {url : String} {tail : List Char}
    (visible : ∀ char ∈ tail, 32 < char.toNat) (unopened : '?' ∉ url.toList)
    (unfragmented : '#' ∉ url.toList) (clean : '#' ∉ tail) :
    queryPairs (url ++ String.ofList ('?' :: tail)) = readPairs unquotePlus tail := by
  have front : Leading (cleaned url) :=
    ⟨fun member => unopened (mem_cleaned member), fun member => unfragmented (mem_cleaned member)⟩
  have seen : ∀ char ∈ (String.ofList ('?' :: tail)).toList, 32 < char.toNat := by
    rw [String.toList_ofList]
    intro char member
    rcases List.mem_cons.1 member with rfl | later
    · decide
    · exact visible char later
  have marked : '#' ∉ '?' :: tail := by simpa using clean
  rw [query_pairs_eq, cleaned_append url seen, String.toList_ofList]
  unfold queryOf
  rw [before_front front.2, after_front front.1, before_absent marked]
  rfl

theorem query_pairs_none {url : String} (unopened : '?' ∉ url.toList) : queryPairs url = [] := by
  have absent : '?' ∉ before '#' (cleaned url) :=
    fun member => unopened (mem_cleaned (mem_before member))
  rw [query_pairs_eq]
  unfold queryOf
  rw [after_absent absent]
  rfl

/-- A URL with a query keeps it in front of what is appended. -/
theorem query_of_extended {url : String} {tail : String}
    (visible : ∀ char ∈ tail.toList, 32 < char.toNat) (opened : '?' ∈ url.toList)
    (unfragmented : '#' ∉ url.toList) (clean : '#' ∉ tail.toList) :
    queryOf (cleaned (url ++ tail)) = queryOf (cleaned url) ++ tail.toList := by
  have bare : '#' ∉ cleaned url := fun member => unfragmented (mem_cleaned member)
  have present : '?' ∈ cleaned url := (mem_cleaned_iff (by decide)).2 opened
  have cut := before_after present
  have front := not_mem_before '?' (cleaned url)
  unfold queryOf
  rw [cleaned_append url visible, before_front bare, before_absent clean, before_absent bare]
  nth_rewrite 1 [cut]
  rw [List.append_assoc, List.cons_append]
  exact (before_append '?' _ _ (by rintro char member rfl; exact front member)).2

/-! ### `_append_state` -/

theorem visible_append {first second : List Char} (front : ∀ char ∈ first, 32 < char.toNat)
    (back : ∀ char ∈ second, 32 < char.toNat) : ∀ char ∈ first ++ second, 32 < char.toNat := by
  intro char member
  exact (List.mem_append.1 member).elim (front char) (back char)

theorem quote_unfragmented (text : String) : '#' ∉ (quoteAll text).toList := by
  intro member
  rcases mem_quote member with unreserved | percent | kept
  · revert unreserved
    decide
  · cases percent
  · cases kept.1

/-- The state as it is appended. -/
def stateText (state : String) : List Char := "state".toList ++ '=' :: (quoteAll state).toList

theorem visible_state (state : String) : ∀ char ∈ stateText state, 32 < char.toNat := by
  have name : ∀ char ∈ "state".toList ++ ['='], 32 < char.toNat := by decide
  have spelled : stateText state = ("state".toList ++ ['=']) ++ (quoteAll state).toList := by
    simp [stateText]
  rw [spelled]
  exact visible_append name (visible_quote state)

theorem state_unfragmented (state : String) : '#' ∉ stateText state := by
  intro member
  rcases List.mem_append.1 member with name | value
  · revert name
    decide
  · rcases List.mem_cons.1 value with same | quoted
    · cases same
    · exact quote_unfragmented state quoted

theorem read_state (state : String) :
    readPairs unquotePlus (stateText state) = [("state", state)] := by
  have name : unquotePlus (String.ofList "state".toList) = "state" := by
    rw [String.ofList_toList]
    exact unquote_plus_plain (by decide)
  unfold stateText
  rw [read_quoted state (by decide) (by decide), name]

theorem append_state_eq (uri state : String) : appendState uri (some state) =
    uri ++ String.ofList ((if uri.toList.contains '?' then '&' else '?') :: stateText state) := by
  have spelled : ∀ separator : Char,
      String.ofList (separator :: stateText state) =
        String.ofList [separator] ++ "state=" ++ quoteAll state := by
    intro separator
    rw [← String.toList_inj]
    simp [stateText]
  unfold appendState
  dsimp only
  rw [spelled]
  split <;> simp [String.append_assoc]

/-- The state follows the parameters of the URI unless a fragment hides it. -/
theorem append_state_reads_iff (uri : String) (state : Option String) :
    queryPairs (appendState uri state) = queryPairs uri ++ givenPair "state" state ↔
      (state = none ∨ '#' ∉ uri.toList) := by
  cases state with
  | none => simp [appendState, givenPair]
  | some state =>
      have separated : ∀ separator : Char, 32 < separator.toNat →
          ∀ char ∈ (String.ofList (separator :: stateText state)).toList, 32 < char.toNat := by
        intro separator visible
        rw [String.toList_ofList]
        intro char member
        rcases List.mem_cons.1 member with rfl | later
        · exact visible
        · exact visible_state state char later
      rw [append_state_eq]
      constructor
      · intro reads
        right
        intro fragment
        have visible : 32 < (if uri.toList.contains '?' then '&' else '?' : Char).toNat := by
          split <;> decide
        rw [query_pairs_fragment (separated _ visible) fragment] at reads
        have lengths := congrArg List.length reads
        simp [givenPair] at lengths
      · intro condition
        have unfragmented := condition.resolve_left (by simp)
        by_cases opened : '?' ∈ uri.toList
        · have clean : '#' ∉ (String.ofList ('&' :: stateText state)).toList := by
            rw [String.toList_ofList]
            simpa using state_unfragmented state
          rw [if_pos (by simpa using opened), query_pairs_eq, query_pairs_eq,
            query_of_extended (separated '&' (by decide)) opened unfragmented clean,
            String.toList_ofList, read_pairs_join, read_state]
          rfl
        · rw [if_neg (by simpa using opened), query_pairs_none opened,
            query_pairs_opened (visible_state state) opened unfragmented
              (state_unfragmented state), read_state]
          rfl

/-! ### The iframe -/

/-- The session identifier an iframe carries. -/
def sentSid (client : Client) (sid : Option String) : Option String :=
  sid.filter fun sid => client.frontchannelLogoutSessionRequired && sid != ""

def sidText (sid : Option String) : List Char :=
  match sid with
  | some sid => '&' :: ("sid".toList ++ '=' :: (quoteAll sid).toList)
  | none => []

/-- What an iframe's URL has after the `?` of its own. -/
def srcTail (issuer : String) (sid : Option String) : List Char :=
  ("iss".toList ++ '=' :: (quoteAll issuer).toList) ++ sidText sid

theorem frontchannel_src_eq (client : Client) (issuer : String) (sid : Option String) :
    frontchannelSrc client issuer sid = client.frontchannelLogoutUri ++
      String.ofList ('?' :: srcTail issuer (sentSid client sid)) := by
  unfold frontchannelSrc sentSid
  cases sid.filter fun sid => client.frontchannelLogoutSessionRequired && sid != "" with
  | none =>
      rw [← String.toList_inj]
      simp [srcTail, sidText]
  | some sid =>
      rw [← String.toList_inj]
      simp [srcTail, sidText]

theorem visible_src_tail (issuer : String) (sid : Option String) :
    ∀ char ∈ srcTail issuer sid, 32 < char.toNat := by
  have named : ∀ (name : List Char) (value : String), (∀ char ∈ name, 32 < char.toNat) →
      ∀ char ∈ name ++ '=' :: (quoteAll value).toList, 32 < char.toNat := by
    intro name value visible
    apply visible_append visible
    intro char member
    rcases List.mem_cons.1 member with rfl | quoted
    · decide
    · exact visible_quote value char quoted
  apply visible_append (named _ issuer (by decide))
  cases sid with
  | none => intro char member; cases member
  | some sid =>
      intro char member
      rcases List.mem_cons.1 member with rfl | later
      · decide
      · exact named _ sid (by decide) char later

theorem src_tail_unfragmented (issuer : String) (sid : Option String) :
    '#' ∉ srcTail issuer sid := by
  have named : ∀ (name : List Char) (value : String), '#' ∉ name →
      '#' ∉ name ++ '=' :: (quoteAll value).toList := by
    intro name value clean member
    rcases List.mem_append.1 member with inName | inValue
    · exact clean inName
    · rcases List.mem_cons.1 inValue with same | quoted
      · cases same
      · exact quote_unfragmented value quoted
  intro member
  rcases List.mem_append.1 member with inIssuer | inSid
  · exact named _ issuer (by decide) inIssuer
  · cases sid with
    | none => cases inSid
    | some sid =>
        rcases List.mem_cons.1 inSid with same | later
        · cases same
        · exact named _ sid (by decide) later

theorem read_sid_text (front : List Char) (sid : Option String) :
    readPairs unquotePlus (front ++ sidText sid) =
      readPairs unquotePlus front ++ givenPair "sid" sid := by
  have named : unquotePlus (String.ofList "sid".toList) = "sid" := by
    rw [String.ofList_toList]
    exact unquote_plus_plain (by decide)
  cases sid with
  | none =>
      unfold sidText givenPair
      simp
  | some sid =>
      unfold sidText
      rw [read_pairs_join, read_quoted sid (by decide) (by decide), named]
      rfl

/-- What stands before the issuer, without `&`, becomes part of one pair. -/
theorem read_src_tail (front : List Char) (alone : '&' ∉ front) (issuer : String)
    (sid : Option String) : ∃ pair,
      readPairs unquotePlus (front ++ srcTail issuer sid) = pair :: givenPair "sid" sid := by
  have partless : '&' ∉ front ++ "iss".toList := by
    intro member
    rcases List.mem_append.1 member with inFront | inName
    · exact alone inFront
    · revert inName
      decide
  have single := read_pairs_single unquotePlus (quoted_partless _ issuer partless)
  have present : (front ++ "iss".toList ++ '=' :: (quoteAll issuer).toList).isEmpty = false := by
    simp
  rw [present] at single
  unfold srcTail
  rw [← List.append_assoc, read_sid_text, ← List.append_assoc, single]
  exact ⟨_, rfl⟩

/-- The issuer is read under the name it is written with. -/
theorem read_issuer {front : List Char} (alone : '&' ∉ front) (valueless : '=' ∉ front)
    (issuer : String) (sid : Option String) :
    readPairs unquotePlus (front ++ srcTail issuer sid) =
      (unquotePlus (String.ofList (front ++ "iss".toList)), issuer) :: givenPair "sid" sid := by
  have iss : '&' ∉ "iss".toList ∧ '=' ∉ "iss".toList := by decide
  have first := @read_quoted (front ++ "iss".toList) issuer
    (fun member => (List.mem_append.1 member).elim alone iss.1)
    (fun member => (List.mem_append.1 member).elim valueless iss.2)
  unfold srcTail
  rw [← List.append_assoc, read_sid_text, ← List.append_assoc, first]
  rfl

/-- The part of a text that the next `&` would end. -/
theorem last_part (text : List Char) : ∃ (front : List (String × String)) (part : List Char),
    '&' ∉ part ∧ ∀ tail, readPairs unquotePlus (text ++ tail) =
      front ++ readPairs unquotePlus (part ++ tail) := by
  by_cases split : '&' ∈ text
  · obtain ⟨reversed, rest, spelled, alone⟩ :=
      List.eq_append_cons_of_mem (List.mem_reverse.2 split)
    have same : text = rest.reverse ++ '&' :: reversed.reverse := by
      have turned := congrArg List.reverse spelled
      simpa using turned
    refine ⟨readPairs unquotePlus rest.reverse, reversed.reverse, by simpa using alone, ?_⟩
    intro tail
    rw [same, List.append_assoc, List.cons_append, read_pairs_join]
  · exact ⟨[], text, split, fun tail => rfl⟩

/-- A query opened twice does not name the issuer. -/
theorem opened_twice (own : List Char) (issuer : String) (sid : Option String) :
    readPairs unquotePlus (own ++ '?' :: srcTail issuer sid) ≠
      readPairs unquotePlus own ++ ("iss", issuer) :: givenPair "sid" sid := by
  intro reads
  obtain ⟨front, part, alone, splits⟩ := last_part own
  have ownSplit := splits []
  rw [List.append_nil, List.append_nil] at ownSplit
  have marked : '&' ∉ part ++ ['?'] := by simpa using alone
  rw [splits, ownSplit, List.append_assoc, List.append_cancel_left_eq] at reads
  have spelled : part ++ '?' :: srcTail issuer sid = (part ++ ['?']) ++ srcTail issuer sid := by
    simp
  rw [spelled] at reads
  cases part with
  | nil =>
      have spelled : String.ofList (['?'] ++ "iss".toList) = "?iss" := rfl
      have name : unquotePlus (String.ofList (['?'] ++ "iss".toList)) ≠ "iss" := by
        rw [spelled, unquote_plus_plain (by decide)]
        decide
      rw [List.nil_append, read_issuer (by decide) (by decide)] at reads
      exact name (congrArg Prod.fst (List.cons.inj reads).1)
  | cons char later =>
      obtain ⟨pair, merged⟩ := read_src_tail _ marked issuer sid
      rw [merged, read_pairs_single _ alone] at reads
      have lengths := congrArg List.length reads
      simp at lengths

/-- The issuer and the session follow the parameters of the URI exactly when it
has neither a query nor a fragment. -/
theorem frontchannel_src_reads_iff (client : Client) (issuer : String) (sid : Option String) :
    queryPairs (frontchannelSrc client issuer sid) =
        queryPairs client.frontchannelLogoutUri ++
          ("iss", issuer) :: givenPair "sid" (sentSid client sid) ↔
      Leading client.frontchannelLogoutUri.toList := by
  have tail := visible_src_tail issuer (sentSid client sid)
  have clean := src_tail_unfragmented issuer (sentSid client sid)
  have visible : ∀ char ∈ (String.ofList ('?' :: srcTail issuer (sentSid client sid))).toList,
      32 < char.toNat := by
    rw [String.toList_ofList]
    intro char member
    rcases List.mem_cons.1 member with rfl | later
    · decide
    · exact tail char later
  rw [frontchannel_src_eq]
  constructor
  · intro reads
    have unfragmented : '#' ∉ client.frontchannelLogoutUri.toList := by
      intro fragment
      rw [query_pairs_fragment visible fragment] at reads
      have lengths := congrArg List.length reads
      simp at lengths
    refine ⟨fun opened => ?_, unfragmented⟩
    have marked : '#' ∉ (String.ofList ('?' :: srcTail issuer (sentSid client sid))).toList := by
      rw [String.toList_ofList]
      simpa using clean
    rw [query_pairs_eq, query_pairs_eq,
      query_of_extended visible opened unfragmented marked, String.toList_ofList] at reads
    exact opened_twice _ issuer _ reads
  · intro leading
    have name : unquotePlus (String.ofList ([] ++ "iss".toList)) = "iss" := by
      rw [List.nil_append, String.ofList_toList]
      exact unquote_plus_plain (by decide)
    have read := @read_issuer [] (by decide) (by decide) issuer (sentSid client sid)
    rw [name, List.nil_append] at read
    rw [query_pairs_none leading.1, query_pairs_opened tail leading.1 leading.2 clean, read]
    rfl

/-! ### The script -/

/-- One character of a JSON literal inside a script. -/
def scriptPart (char : Char) : List Char :=
  if char = '<' then ['\\', 'u', '0', '0', '3', 'c']
  else if char = '/' then ['\\', '/']
  else [char]

theorem script_literal_eq (url : String) : scriptLiteral url =
    String.ofList ('"' :: (url.toList.flatMap (fun char => (escapeChar char).flatMap scriptPart) ++
      ['"'])) := by
  have part : ∀ char : Char, (if char == '<' then "\\u003c" else if char == '/' then "\\/"
      else char.toString).toList = scriptPart char := by
    intro char
    unfold scriptPart
    simp only [beq_iff_eq]
    split
    · rfl
    split
    · rfl
    · simp
  have quote : ['"'].flatMap scriptPart = ['"'] := by decide
  have spelled : '"' :: url.toList.flatMap escapeChar ++ ['"'] =
      ['"'] ++ url.toList.flatMap escapeChar ++ ['"'] := rfl
  unfold scriptLiteral quoteText
  rw [← String.toList_inj, String.toList_join, List.flatMap_map, String.toList_ofList,
    String.toList_ofList, funext part, spelled, List.flatMap_append, List.flatMap_append, quote,
    List.flatMap_assoc]
  rfl

theorem script_part_unopened (char : Char) : '<' ∉ scriptPart char := by
  unfold scriptPart
  split
  · decide
  split
  · decide
  · rename_i other _
    rw [List.mem_singleton]
    exact fun same => other same.symm

theorem script_literal_unopened (url : String) : '<' ∉ (scriptLiteral url).toList := by
  rw [script_literal_eq, String.toList_ofList]
  intro member
  rcases List.mem_cons.1 member with same | rest
  · cases same
  rcases List.mem_append.1 rest with inText | last
  · obtain ⟨char, _, written⟩ := List.mem_flatMap.1 inText
    obtain ⟨escaped, _, part⟩ := List.mem_flatMap.1 written
    exact script_part_unopened escaped part
  · cases List.mem_singleton.1 last

/-- Escapes hold neither of the two replaced characters. -/
theorem hex_text_kept {code : Nat} (small : code < 0x10000) :
    ∀ char ∈ hexText 4 code, char ≠ '<' ∧ char ≠ '/' := by
  have each : ∀ digit : Fin 16, Nat.digitChar digit ≠ '<' ∧ Nat.digitChar digit ≠ '/' := by decide
  have kept : ∀ digit, digit < 16 → Nat.digitChar digit ≠ '<' ∧ Nat.digitChar digit ≠ '/' :=
    fun digit bound => each ⟨digit, bound⟩
  rw [JsonStrings.hex_text_four code small]
  intro char member
  simp only [List.mem_cons, List.not_mem_nil, or_false] at member
  rcases member with rfl | rfl | rfl | rfl
  · exact kept _ (by omega)
  · exact kept _ (by omega)
  · exact kept _ (by omega)
  · exact kept _ (by omega)

theorem escape_char_kept {char : Char} (opening : char ≠ '<') (slash : char ≠ '/') :
    ∀ written ∈ escapeChar char, written ≠ '<' ∧ written ≠ '/' := by
  have valid : char.toNat < 0xd800 ∨ (0xdfff < char.toNat ∧ char.toNat < 0x110000) := char.valid
  have unicode : ∀ code, code < 0x10000 →
      ∀ written ∈ '\\' :: 'u' :: hexText 4 code, written ≠ '<' ∧ written ≠ '/' := by
    intro code small written member
    rcases List.mem_cons.1 member with rfl | later
    · decide
    rcases List.mem_cons.1 later with rfl | digits
    · decide
    · exact hex_text_kept small written digits
  have simple : ∀ {letter written : Char}, letter ≠ '<' ∧ letter ≠ '/' →
      written ∈ ['\\', letter] → written ≠ '<' ∧ written ≠ '/' := by
    intro letter written kept member
    rcases List.mem_cons.1 member with rfl | last
    · decide
    · rw [List.mem_singleton.1 last]
      exact kept
  intro written member
  unfold escapeChar at member
  dsimp only at member
  split at member
  · exact simple (by decide) member
  split at member
  · exact simple (by decide) member
  split at member
  · exact simple (by decide) member
  split at member
  · exact simple (by decide) member
  split at member
  · exact simple (by decide) member
  split at member
  · exact simple (by decide) member
  split at member
  · exact simple (by decide) member
  split at member
  · rw [List.mem_singleton.1 member]
    exact ⟨opening, slash⟩
  split at member
  · exact unicode _ (by assumption) written member
  · rcases List.mem_append.1 member with high | low
    · exact unicode _ (by omega) written high
    · exact unicode _ (by omega) written low

theorem extends_script_part (fuel : Nat) (char : Char) :
    JsonStrings.Extends fuel char ((escapeChar char).flatMap scriptPart) := by
  by_cases opening : char = '<'
  · rw [opening]
    have written : (escapeChar '<').flatMap scriptPart = '\\' :: 'u' :: ['0', '0', '3', 'c'] := by
      decide
    rw [written]
    exact JsonStrings.extends_unicode fun rest => rfl
  by_cases slash : char = '/'
  · rw [slash]
    have written : (escapeChar '/').flatMap scriptPart = ['\\', '/'] := by decide
    rw [written]
    exact JsonStrings.extends_simple rfl (by decide)
  · have kept := escape_char_kept opening slash
    have same : (escapeChar char).flatMap scriptPart = escapeChar char := by
      generalize escapeChar char = text at kept
      induction text with
      | nil => rfl
      | cons first later induction =>
          have alone : scriptPart first = [first] := by
            obtain ⟨notOpening, notSlash⟩ := kept first List.mem_cons_self
            unfold scriptPart
            rw [if_neg notOpening, if_neg notSlash]
          rw [List.flatMap_cons, alone,
            induction fun other member => kept other (List.mem_cons_of_mem _ member)]
          rfl
    rw [same]
    exact JsonStrings.parse_escape_char fuel char

/-- The literal of the script is the URL. -/
theorem script_literal_reads (limit : Nat) (url : String) :
    loads limit (scriptLiteral url) = .ok (.str url) := by
  have written : ∀ char, (escapeChar char).flatMap scriptPart ≠ [] := by
    intro char empty
    rw [List.flatMap_eq_nil_iff] at empty
    obtain ⟨first, later, spelled⟩ := List.exists_cons_of_ne_nil
      (JsonStrings.escape_char_written char)
    have blank := empty first (by rw [spelled]; exact List.mem_cons_self)
    revert blank
    unfold scriptPart
    split
    · exact List.cons_ne_nil _ _
    split
    · exact List.cons_ne_nil _ _
    · exact List.cons_ne_nil _ _
  rw [script_literal_eq]
  exact JsonStrings.loads_written extends_script_part written limit url

/-! ### The page -/

def iframeTag (src : String) : Html.Tag where
  attributes := [("iframe src=", src), (" style=", "display:none"),
    (" sandbox=", "allow-scripts allow-same-origin")]
  rest := ""

/-- The script around its literal. -/
def scriptHead : String := "setTimeout(function()\x7b window.location.href = "

def scriptTail : String := "; \x7d, 2000);"

/-- The text between the tags of the script. -/
def scriptText (url : String) : String := scriptHead ++ scriptLiteral url ++ scriptTail

theorem script_text_unopened (url : String) : '<' ∉ (scriptText url).toList := by
  have around : '<' ∉ scriptHead.toList ∧ '<' ∉ scriptTail.toList := by decide
  unfold scriptText
  rw [String.toList_append, String.toList_append, List.mem_append, List.mem_append]
  rintro ((before | literal) | after)
  · exact around.1 before
  · exact script_literal_unopened url literal
  · exact around.2 after

def iframeParts (src : String) : List (Html.Tag × String) :=
  [(iframeTag src, ""), (Html.bareTag "/iframe", "")]

def scriptParts (redirectUrl : Option String) : List (Html.Tag × String) :=
  match redirectUrl.filter (· != "") with
  | some url => [(Html.bareTag "script", scriptText url), (Html.bareTag "/script", "")]
  | none => []

/-- The page, tag by tag, each with the text that follows it. -/
def pageDocument (sources : List String) (redirectUrl : Option String) :
    List (Html.Tag × String) :=
  [(Html.bareTag "!doctype html", ""), (Html.bareTag "html", ""), (Html.bareTag "body", ""),
    (Html.bareTag "p", "Logging out..."), (Html.bareTag "/p", "")] ++
    sources.flatMap iframeParts ++ scriptParts redirectUrl ++
    [(Html.bareTag "/body", ""), (Html.bareTag "/html", "")]

theorem iframe_written (src : String) :
    (iframe src).toList = Html.writeDocument (iframeParts src) := by
  have closing : ("\" style=\"display:none\" ".toList ++
      "sandbox=\"allow-scripts allow-same-origin\"></iframe>".toList) =
      '"' :: (Html.writeAttribute (" style=", "display:none") ++
        (Html.writeAttribute (" sandbox=", "allow-scripts allow-same-origin") ++
          ('>' :: Html.writeTag (Html.bareTag "/iframe")))) := rfl
  have opening : "<iframe src=\"".toList = '<' :: ("iframe src=".toList ++ ['"']) := rfl
  unfold iframe
  rw [String.toList_append, String.toList_append, String.toList_append, List.append_assoc, closing,
    opening, String.toList_ofList]
  simp [Html.writeDocument, iframeParts, Html.writeTag, iframeTag, Html.writeAttribute]

theorem iframes_written (sources : List String) :
    (String.join (sources.map iframe)).toList =
      Html.writeDocument (sources.flatMap iframeParts) := by
  rw [String.toList_join, List.flatMap_map, funext iframe_written]
  unfold Html.writeDocument
  rw [List.flatMap_assoc]

theorem script_written (redirectUrl : Option String) :
    (pageScript redirectUrl).toList = Html.writeDocument (scriptParts redirectUrl) := by
  unfold pageScript scriptParts
  cases redirectUrl.filter (· != "") with
  | none =>
      dsimp only
      exact String.toList_empty
  | some url =>
      have opening : "<script>setTimeout(function()\x7b window.location.href = ".toList =
          Html.writeTag (Html.bareTag "script") ++ scriptHead.toList := rfl
      have closing : "; \x7d, 2000);</script>".toList =
          scriptTail.toList ++ Html.writeTag (Html.bareTag "/script") := rfl
      unfold redirectScript
      dsimp only
      rw [String.toList_append, String.toList_append, opening, closing]
      simp [Html.writeDocument, scriptText]

theorem page_written (clients : List Client) (issuer : String) (sid redirectUrl : Option String) :
    (renderFrontchannelPage clients issuer sid redirectUrl).toList =
      Html.writeDocument (pageDocument
        (clients.map fun client => frontchannelSrc client issuer sid) redirectUrl) := by
  have opening : "<!doctype html><html><body><p>Logging out...</p>".toList =
      Html.writeDocument [(Html.bareTag "!doctype html", ""), (Html.bareTag "html", ""),
        (Html.bareTag "body", ""), (Html.bareTag "p", "Logging out..."),
        (Html.bareTag "/p", "")] := rfl
  have closing : "</body></html>".toList =
      Html.writeDocument [(Html.bareTag "/body", ""), (Html.bareTag "/html", "")] := rfl
  have frames := iframes_written (clients.map fun client => frontchannelSrc client issuer sid)
  rw [List.map_map] at frames
  have joined : ∀ first second, Html.writeDocument (first ++ second) =
      Html.writeDocument first ++ Html.writeDocument second :=
    fun first second => List.flatMap_append
  unfold renderFrontchannelPage pageDocument
  rw [String.toList_append, String.toList_append, String.toList_append, opening, closing, joined,
    joined, joined, script_written]
  exact congrArg (fun text => _ ++ text ++ _ ++ _) frames

theorem page_plain (sources : List String) (redirectUrl : Option String) :
    ∀ part ∈ pageDocument sources redirectUrl,
      part.1.Plain ∧ ∀ char ∈ part.2.toList, char ≠ '<' := by
  have fixed : ∀ part ∈ [(Html.bareTag "!doctype html", ""), (Html.bareTag "html", ""),
      (Html.bareTag "body", ""), (Html.bareTag "p", "Logging out..."), (Html.bareTag "/p", ""),
      (Html.bareTag "/iframe", ""), (Html.bareTag "/script", ""), (Html.bareTag "/body", ""),
      (Html.bareTag "/html", "")], part.1.Plain ∧ ∀ char ∈ part.2.toList, char ≠ '<' := by
    unfold Html.Tag.Plain
    decide
  have markup : ∀ text ∈ ["", "iframe src=", " style=", " sandbox="],
      ∀ char ∈ text.toList, char ≠ '>' ∧ char ≠ '"' := by decide
  have script : ∀ text ∈ ["script"], ∀ char ∈ text.toList, char ≠ '>' ∧ char ≠ '"' := by decide
  intro part member
  unfold pageDocument at member
  rw [List.mem_append, List.mem_append, List.mem_append] at member
  rcases member with ((opening | frames) | embedded) | closing
  · apply fixed
    exact List.mem_append_left _ opening
  · obtain ⟨src, _, frame⟩ := List.mem_flatMap.1 frames
    have empty : ∀ char ∈ "".toList, char ≠ '<' := by decide
    rcases List.mem_cons.1 frame with rfl | last
    · exact ⟨markup, empty⟩
    · rw [List.mem_singleton.1 last]
      exact fixed _ (by decide)
  · unfold scriptParts at embedded
    split at embedded
    · rename_i url _
      rcases List.mem_cons.1 embedded with rfl | last
      · refine ⟨script, ?_⟩
        rintro char inText rfl
        exact script_text_unopened url inText
      · rw [List.mem_singleton.1 last]
        exact fixed _ (by decide)
    · cases embedded
  · rcases List.mem_cons.1 closing with rfl | last
    · exact fixed _ (by decide)
    · rw [List.mem_singleton.1 last]
      exact fixed _ (by decide)

/-- Whatever is registered and asked for, the page has these tags and no other. -/
theorem page_tags (clients : List Client) (issuer : String) (sid redirectUrl : Option String) :
    Html.tags (renderFrontchannelPage clients issuer sid redirectUrl) =
      (pageDocument (clients.map fun client => frontchannelSrc client issuer sid)
        redirectUrl).map Prod.fst := by
  have read := Html.tags_from_document (page_plain
    (clients.map fun client => frontchannelSrc client issuer sid) redirectUrl) []
  have finished : Html.tagsFrom .data [] = [] := rfl
  rw [List.append_nil, finished, List.append_nil] at read
  unfold Html.tags
  rw [page_written, read]

/-! ### Well-formed texts -/

/-- Every URL of a logout keeps its parameters, and every reader finds the URL
that was embedded. -/
structure WellFormed (clients : List Client) (issuer : String) (sid : Option String)
    (postLogoutRedirectUri : String) (state : Option String) : Prop where
  iframes : ∀ redirectUrl, Html.tags (renderFrontchannelPage clients issuer sid redirectUrl) =
    (pageDocument (clients.map fun client => frontchannelSrc client issuer sid)
      redirectUrl).map Prod.fst
  sources : ∀ client ∈ clients, queryPairs (frontchannelSrc client issuer sid) =
    queryPairs client.frontchannelLogoutUri ++
      ("iss", issuer) :: givenPair "sid" (sentSid client sid)
  target : queryPairs (appendState postLogoutRedirectUri state) =
    queryPairs postLogoutRedirectUri ++ givenPair "state" state
  script : ∀ url, redirectScript url = "<script>" ++ scriptText url ++ "</script>" ∧
    '<' ∉ (scriptText url).toList ∧ ∀ limit, loads limit (scriptLiteral url) = .ok (.str url)

theorem redirect_script_eq (url : String) :
    redirectScript url = "<script>" ++ scriptText url ++ "</script>" := by
  have opening : "<script>setTimeout(function()\x7b window.location.href = " =
      "<script>" ++ scriptHead := rfl
  have closing : "; \x7d, 2000);</script>" = scriptTail ++ "</script>" := rfl
  unfold redirectScript scriptText
  rw [opening, closing]
  simp only [String.append_assoc]

/-- The texts of a logout are well formed exactly when no client's frontchannel
URI has a query or a fragment mark, and none hides the state. -/
theorem logout_texts_well_formed_iff (clients : List Client) (issuer : String)
    (sid : Option String) (postLogoutRedirectUri : String) (state : Option String) :
    WellFormed clients issuer sid postLogoutRedirectUri state ↔
      (∀ client ∈ clients, '?' ∉ client.frontchannelLogoutUri.toList ∧
        '#' ∉ client.frontchannelLogoutUri.toList) ∧
      (state = none ∨ '#' ∉ postLogoutRedirectUri.toList) := by
  constructor
  · intro formed
    refine ⟨fun client listed => ?_, (append_state_reads_iff _ _).1 formed.target⟩
    exact (frontchannel_src_reads_iff client issuer sid).1 (formed.sources client listed)
  · intro ⟨bare, shown⟩
    refine ⟨fun redirectUrl => page_tags clients issuer sid redirectUrl, ?_,
      (append_state_reads_iff _ _).2 shown, ?_⟩
    · intro client listed
      exact (frontchannel_src_reads_iff client issuer sid).2 (bare client listed)
    · intro url
      exact ⟨redirect_script_eq url, script_text_unopened url,
        fun limit => script_literal_reads limit url⟩

def tabbedClient : Client :=
  { id := "1", clientId := "rp", clientSecret := "", redirectUris := "", grantTypes := "",
    scope := "", name := "rp", createdAt := 0, updatedAt := 0,
    frontchannelLogoutUri := "https://rp.example/out?tab=1" }

/-- The registration takes a URI with a query, and its iframe does not name the issuer. -/
theorem query_opened_twice : ¬∀ (clients : List Client) (issuer : String) (sid : Option String)
    (postLogoutRedirectUri : String) (state : Option String),
    (∀ client ∈ clients,
      ClientUris.isValidRedirectUri client.frontchannelLogoutUri = some true) →
    ClientUris.isValidRedirectUri postLogoutRedirectUri = some true →
    WellFormed clients issuer sid postLogoutRedirectUri state := by
  intro always
  have accepted : ∀ client ∈ [tabbedClient],
      ClientUris.isValidRedirectUri client.frontchannelLogoutUri = some true := by decide +kernel
  have target : ClientUris.isValidRedirectUri "https://rp.example/bye" = some true := by
    decide +kernel
  have formed := always [tabbedClient] "https://as.example" none "https://rp.example/bye" none
    accepted target
  have bare := ((logout_texts_well_formed_iff _ _ _ _ _).1 formed).1 tabbedClient
    List.mem_cons_self
  exact bare.1 (by decide)

end OAuth2Server.LogoutTexts
