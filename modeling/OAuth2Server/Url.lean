import OAuth2Server.Text
import Mathlib.Data.List.TakeWhile

/-!
# `urllib.parse.urlsplit`

The splitting of the standard library, with every `ValueError` it raises:
unbalanced brackets, a bracketed host that is no IPv6 or IPvFuture literal, and
a network location that normalisation would turn into a delimiter.
-/

namespace OAuth2Server.Url

open OAuth2Server

set_option autoImplicit false

structure SplitResult where
  scheme : String
  netloc : String
  path : String
  query : String
  fragment : String
  deriving DecidableEq, Repr

def isAsciiLetter (char : Char) : Bool :=
  ('a' ≤ char && char ≤ 'z') || ('A' ≤ char && char ≤ 'Z')

def isAsciiDigit (char : Char) : Bool := '0' ≤ char && char ≤ '9'

def isSchemeChar (char : Char) : Bool :=
  isAsciiLetter char || isAsciiDigit char || char == '+' || char == '-' || char == '.'

def isHexDigit (char : Char) : Bool := (Text.hexDigit char).isSome

/-- `text.split(char)`. -/
def splitOn (char : Char) (text : List Char) : List (List Char) :=
  text.foldr (fun next parts =>
    if next == char then [] :: parts
    else match parts with
      | [] => [[next]]
      | part :: rest => (next :: part) :: rest) [[]]

/-- The part of `text` before the first `char`, all of it when there is none. -/
def before (char : Char) (text : List Char) : List Char := text.takeWhile (· != char)

/-- The part of `text` after the first `char`, empty when there is none. -/
def after (char : Char) (text : List Char) : List Char := (text.dropWhile (· != char)).tail

/-- The part of `text` after the last `char`, all of it when there is none. -/
def afterLast (char : Char) (text : List Char) : List Char :=
  (text.reverse.takeWhile (· != char)).reverse

/-- One octet of `ipaddress.IPv4Address`. -/
def isOctet (text : List Char) : Bool :=
  !text.isEmpty && text.length ≤ 3 && text.all isAsciiDigit &&
    !(1 < text.length && text.head? == some '0') &&
    text.foldl (fun total digit => total * 10 + (digit.toNat - '0'.toNat)) 0 ≤ 255

def isIPv4 (text : List Char) : Bool :=
  let parts := splitOn '.' text
  parts.length == 4 && parts.all isOctet

def isHextet (text : List Char) : Bool :=
  !text.isEmpty && text.length ≤ 4 && text.all isHexDigit

/-- `ipaddress.IPv6Address` accepts the address part. -/
def isIPv6Body (text : List Char) : Bool :=
  let raw := splitOn ':' text
  let last := raw.getLastD []
  let dotted := last.contains '.'
  let parts := if dotted then raw.dropLast ++ [['0'], ['0']] else raw
  let inner := parts.tail.dropLast
  let gaps := inner.filter List.isEmpty
  let high := inner.takeWhile (fun part => !part.isEmpty)
  let low := (inner.dropWhile fun part => !part.isEmpty).tail
  let first := parts.headD []
  let final := parts.getLastD []
  3 ≤ raw.length && (!dotted || isIPv4 last) && parts.length ≤ 9 &&
    match gaps.length with
    | 0 => parts.length == 8 && parts.all isHextet
    | 1 =>
        (if first.isEmpty then high.isEmpty else isHextet first) &&
        (if final.isEmpty then low.isEmpty else isHextet final) &&
        high.all isHextet && low.all isHextet &&
        (high.length + low.length + (if first.isEmpty then 0 else 1) +
          (if final.isEmpty then 0 else 1)) < 8
    | _ => false

def isIPv6 (text : List Char) : Bool :=
  let scope := after '%' text
  !text.contains '/' && isIPv6Body (before '%' text) &&
    (!text.contains '%' || (!scope.isEmpty && !scope.contains '%'))

/-- `v<hex>.<anything>`. -/
def isIPvFuture (text : List Char) : Bool :=
  match text with
  | 'v' :: rest =>
      let version := rest.takeWhile isHexDigit
      !version.isEmpty && (rest.drop version.length).head? == some '.' &&
        1 < (rest.drop version.length).length
  | _ => false

/-- `_check_bracketed_netloc` accepts. -/
def bracketsOk (netloc : List Char) : Bool :=
  let hostAndPort := afterLast '@' netloc
  if hostAndPort.contains '[' then
    let bracketed := after '[' hostAndPort
    let host := before ']' bracketed
    let port := after ']' bracketed
    (before '[' hostAndPort).isEmpty && (port.isEmpty || port.head? == some ':') &&
      (if host.head? == some 'v' then isIPvFuture host else isIPv6 host)
  else
    let host := before ':' hostAndPort
    if host.head? == some 'v' then isIPvFuture host else isIPv6 host

/-- The characters whose NFKC form contains one of `/?#@:`. -/
def foldsToDelimiter (char : Char) : Bool :=
  [0x2047, 0x2048, 0x2049, 0x2100, 0x2101, 0x2105, 0x2106, 0x2a74, 0xfe13, 0xfe16, 0xfe55, 0xfe56,
    0xfe5f, 0xfe6b, 0xff03, 0xff0f, 0xff1a, 0xff1f, 0xff20].contains char.toNat

/-- `urlsplit(url)`; `none` is `ValueError`. -/
def urlsplit (url : String) : Option SplitResult :=
  let text := (url.toList.dropWhile fun char => char.toNat ≤ 32).filter fun char =>
    !(char == '\t' || char == '\r' || char == '\n')
  let head := before ':' text
  let hasScheme := text.contains ':' && !head.isEmpty &&
    (head.head?.map isAsciiLetter).getD false && head.all isSchemeChar
  let scheme := if hasScheme then head.map Char.toLower else []
  let rest := if hasScheme then after ':' text else text
  let slashes := rest.take 2 == ['/', '/']
  let netloc := if slashes then
      (rest.drop 2).takeWhile fun char => !(char == '/' || char == '?' || char == '#')
    else []
  let rest := if slashes then rest.drop (2 + netloc.length) else rest
  let opened := netloc.contains '['
  let closed := netloc.contains ']'
  if (opened != closed) || (opened && closed && !bracketsOk netloc) then none
  else if netloc.any foldsToDelimiter then none
  else
    let fragment := if rest.contains '#' then after '#' rest else []
    let rest := before '#' rest
    let query := if rest.contains '?' then after '?' rest else []
    some
      { scheme := String.ofList scheme
        netloc := String.ofList netloc
        path := String.ofList (before '?' rest)
        query := String.ofList query
        fragment := String.ofList fragment }

/-! ### Components -/

theorem after_absent {delimiter : Char} {text : List Char} (absent : delimiter ∉ text) :
    after delimiter text = [] := by
  have none : text.dropWhile (· != delimiter) = [] := by
    rw [List.dropWhile_eq_nil_iff]
    intro char member
    rw [bne_iff_ne]
    rintro rfl
    exact absent member
  unfold after
  rw [none]
  rfl

theorem before_absent {delimiter : Char} {text : List Char} (absent : delimiter ∉ text) :
    before delimiter text = text := by
  unfold before
  rw [List.takeWhile_eq_self_iff]
  intro char member
  rw [bne_iff_ne]
  rintro rfl
  exact absent member

theorem not_mem_before (delimiter : Char) (text : List Char) : delimiter ∉ before delimiter text := by
  intro member
  have kept := List.mem_takeWhile_imp member
  simp at kept

theorem mem_before {delimiter char : Char} {text : List Char} (member : char ∈ before delimiter text) :
    char ∈ text := (List.takeWhile_sublist _).mem member

/-- The first occurrence cuts a text in two. -/
theorem before_after {delimiter : Char} {text : List Char} (present : delimiter ∈ text) :
    text = before delimiter text ++ delimiter :: after delimiter text := by
  induction text with
  | nil => cases present
  | cons char rest induction =>
      by_cases same : char = delimiter
      · simp [before, after, same]
      · have later : delimiter ∈ rest := by
          cases present with
          | head => exact absurd rfl same
          | tail _ later => exact later
        have cut := induction later
        unfold before after at cut ⊢
        simpa [same] using cut

theorem before_front {delimiter : Char} {front : List Char} (absent : delimiter ∉ front)
    (rest : List Char) : before delimiter (front ++ rest) = front ++ before delimiter rest := by
  induction front with
  | nil => rfl
  | cons char later induction =>
      rw [List.mem_cons, not_or] at absent
      have tailed := induction absent.2
      unfold before at tailed ⊢
      rw [List.cons_append, List.takeWhile_cons, if_pos (by simpa using Ne.symm absent.1), tailed]
      rfl

theorem after_front {delimiter : Char} {front : List Char} (absent : delimiter ∉ front)
    (rest : List Char) : after delimiter (front ++ rest) = after delimiter rest := by
  induction front with
  | nil => rfl
  | cons char later induction =>
      rw [List.mem_cons, not_or] at absent
      have tailed := induction absent.2
      unfold after at tailed ⊢
      rw [List.cons_append, List.dropWhile_cons, if_pos (by simpa using Ne.symm absent.1), tailed]

/-- The text that is split: no control character or blank in front, no tab or line break. -/
def cleaned (url : String) : List Char :=
  (url.toList.dropWhile fun char => char.toNat ≤ 32).filter fun char =>
    !(char == '\t' || char == '\r' || char == '\n')

/-- Neither the query nor the fragment has begun. -/
def Leading (text : List Char) : Prop := '?' ∉ text ∧ '#' ∉ text

/-- The components of a URL: scheme and network location in front of `rest`,
which path, query and fragment are cut from. -/
structure Components (url : String) (parts : SplitResult) (front rest : List Char) : Prop where
  text : cleaned url = front ++ rest
  front : Leading front
  scheme : Leading parts.scheme.toList
  netloc : Leading parts.netloc.toList
  path : parts.path.toList = before '?' (before '#' rest)
  query : parts.query.toList = after '?' (before '#' rest)
  fragment : parts.fragment.toList = after '#' rest

theorem lower_leading {char : Char} (allowed : isSchemeChar char = true) :
    char.toLower ≠ '?' ∧ char.toLower ≠ '#' := by
  unfold Char.toLower
  split
  · rename_i upper
    have large : 65 ≤ char.val.toNat := upper.1
    have small : char.val.toNat ≤ 90 := upper.2
    have lower : (char.val + ('a'.val - 'A'.val)).toNat = char.val.toNat + 32 := by
      show (char.val + 32).toNat = _
      rw [UInt32.toNat_add]
      show (char.val.toNat + 32) % 2 ^ 32 = _
      omega
    constructor
    · intro same
      have value := congrArg (fun lowered : Char => lowered.val.toNat) same
      simp only [lower] at value
      change char.val.toNat + 32 = 63 at value
      omega
    · intro same
      have value := congrArg (fun lowered : Char => lowered.val.toNat) same
      simp only [lower] at value
      change char.val.toNat + 32 = 35 at value
      omega
  · constructor
    · rintro rfl
      revert allowed
      decide
    · rintro rfl
      revert allowed
      decide

theorem scheme_leading {text : List Char} (allowed : text.all isSchemeChar = true) :
    Leading text ∧ Leading (text.map Char.toLower) := by
  have each := List.all_eq_true.1 allowed
  refine ⟨⟨fun member => ?_, fun member => ?_⟩, ⟨fun member => ?_, fun member => ?_⟩⟩
  · have kept := each _ member
    revert kept
    decide
  · have kept := each _ member
    revert kept
    decide
  · obtain ⟨char, listed, same⟩ := List.mem_map.1 member
    exact (lower_leading (each char listed)).1 same
  · obtain ⟨char, listed, same⟩ := List.mem_map.1 member
    exact (lower_leading (each char listed)).2 same

theorem leading_nil : Leading [] := ⟨List.not_mem_nil, List.not_mem_nil⟩

theorem Leading.append {first second : List Char} (front : Leading first) (back : Leading second) :
    Leading (first ++ second) := by
  refine ⟨fun member => ?_, fun member => ?_⟩
  · exact (List.mem_append.1 member).elim front.1 back.1
  · exact (List.mem_append.1 member).elim front.2 back.2

theorem cut_scheme {text : List Char} {hasScheme : Bool}
    (valid : hasScheme = true → ':' ∈ text ∧ (before ':' text).all isSchemeChar = true) :
    ∃ front, text = front ++ (if hasScheme then after ':' text else text) ∧ Leading front ∧
      Leading (if hasScheme then (before ':' text).map Char.toLower else []) := by
  cases hasScheme with
  | false => exact ⟨[], rfl, leading_nil, leading_nil⟩
  | true =>
      obtain ⟨present, allowed⟩ := valid rfl
      obtain ⟨front, lowered⟩ := scheme_leading allowed
      have colon : Leading [':'] := by unfold Leading; decide
      refine ⟨before ':' text ++ [':'], ?_, front.append colon, lowered⟩
      simpa using before_after present

/-- The network location: up to the first delimiter. -/
def netlocOf (text : List Char) : List Char :=
  text.takeWhile fun char => !(char == '/' || char == '?' || char == '#')

theorem netloc_leading (text : List Char) : Leading (netlocOf text) := by
  constructor <;> intro member <;> have kept := List.mem_takeWhile_imp member <;> simp at kept

theorem cut_netloc {text : List Char} {slashes : Bool}
    (valid : slashes = true → text.take 2 = ['/', '/']) :
    ∃ front, text = front ++ (if slashes then
        text.drop (2 + (if slashes then netlocOf (text.drop 2) else []).length) else text) ∧
      Leading front ∧ Leading (if slashes then netlocOf (text.drop 2) else []) := by
  cases slashes with
  | false => exact ⟨[], rfl, leading_nil, leading_nil⟩
  | true =>
      have two : Leading ['/', '/'] := by unfold Leading; decide
      refine ⟨['/', '/'] ++ netlocOf (text.drop 2), ?_, two.append (netloc_leading _),
        netloc_leading _⟩
      have located : netlocOf (text.drop 2) ++ (text.drop 2).drop (netlocOf (text.drop 2)).length =
          text.drop 2 := by
        have same : netlocOf (text.drop 2) =
            (text.drop 2).take (netlocOf (text.drop 2)).length :=
          List.prefix_iff_eq_take.1 (List.takeWhile_prefix _)
        nth_rewrite 1 [same]
        exact List.take_append_drop _ _
      have whole := List.take_append_drop 2 text
      rw [valid rfl] at whole
      rw [if_pos rfl, if_pos rfl, ← List.drop_drop, List.append_assoc, located, whole]

theorem after_when_present (delimiter : Char) (text : List Char) :
    (if text.contains delimiter then after delimiter text else []) = after delimiter text := by
  split
  · rfl
  · rename_i absent
    rw [after_absent (by simpa using absent)]

/-- Every successful splitting is one of these. -/
theorem urlsplit_components {url : String} {parts : SplitResult}
    (found : urlsplit url = some parts) : ∃ front rest, Components url parts front rest := by
  unfold urlsplit at found
  extract_lets text head hasScheme scheme rest slashes netloc located opened closed fragment
    unfragmented query at found
  split at found
  · cases found
  split at found
  · cases found
  cases found
  have schemed : hasScheme = true → ':' ∈ text ∧ (before ':' text).all isSchemeChar = true := by
    intro valid
    simp only [hasScheme, Bool.and_eq_true, List.contains_iff_mem] at valid
    exact ⟨valid.1.1.1, valid.2⟩
  have slashed : slashes = true → rest.take 2 = ['/', '/'] := by
    intro valid
    simpa [slashes] using valid
  obtain ⟨first, schemeCut, firstLeading, schemeLeading⟩ := cut_scheme schemed
  obtain ⟨second, netlocCut, secondLeading, netlocLeading⟩ := cut_netloc slashed
  refine ⟨first ++ second, located, ?_, firstLeading.append secondLeading, ?_, ?_, ?_, ?_, ?_⟩
  · rw [List.append_assoc]
    exact schemeCut.trans (congrArg (first ++ ·) netlocCut)
  · rw [String.toList_ofList]
    exact schemeLeading
  · rw [String.toList_ofList]
    exact netlocLeading
  · rw [String.toList_ofList]
  · rw [String.toList_ofList]
    exact after_when_present '?' _
  · rw [String.toList_ofList]
    exact after_when_present '#' _

/-- The query as the grammar of URLs has it: what follows the first `?`, up to a `#`. -/
def queryOf (url : List Char) : List Char := after '?' (before '#' url)

/-- The query that is split off is the one of the grammar. -/
theorem urlsplit_query {url : String} {parts : SplitResult} (found : urlsplit url = some parts) :
    parts.query.toList = queryOf (cleaned url) := by
  obtain ⟨front, rest, components⟩ := urlsplit_components found
  unfold queryOf
  rw [components.query, components.text, before_front components.front.2,
    after_front components.front.1]

theorem mem_cleaned {url : String} {char : Char} (member : char ∈ cleaned url) :
    char ∈ url.toList :=
  (List.dropWhile_sublist _).mem (List.mem_of_mem_filter member)

/-- The query of a URL, as `urlsplit` finds it. -/
def urlQuery (url : String) : String := String.ofList (queryOf (cleaned url))

theorem urlsplit_url_query {url : String} {parts : SplitResult}
    (found : urlsplit url = some parts) : parts.query = urlQuery url := by
  unfold urlQuery
  rw [← urlsplit_query found, String.ofList_toList]

theorem mem_drop_while {char : Char} {text : List Char} {drops : Char → Bool}
    (member : char ∈ text) (kept : drops char = false) : char ∈ text.dropWhile drops := by
  induction text with
  | nil => cases member
  | cons first rest induction =>
      rw [List.dropWhile_cons]
      split
      · rename_i dropped
        cases member with
        | head => exact absurd dropped (by simp [kept])
        | tail _ later => exact induction later
      · exact member

/-- A visible character is not removed. -/
theorem mem_cleaned_iff {url : String} {char : Char} (visible : 32 < char.toNat) :
    char ∈ cleaned url ↔ char ∈ url.toList := by
  refine ⟨mem_cleaned, fun member => ?_⟩
  have other : char ≠ '\t' ∧ char ≠ '\r' ∧ char ≠ '\n' := by
    refine ⟨?_, ?_, ?_⟩
    all_goals
      rintro rfl
      revert visible
      decide
  unfold cleaned
  rw [List.mem_filter]
  exact ⟨mem_drop_while member (by simpa using visible), by simp [other]⟩

theorem drop_while_append {text tail : List Char} {drops : Char → Bool}
    (kept : ∀ char ∈ tail, drops char = false) :
    (text ++ tail).dropWhile drops = text.dropWhile drops ++ tail := by
  induction text with
  | nil =>
      cases tail with
      | nil => rfl
      | cons char rest =>
          rw [List.nil_append, List.dropWhile_cons, kept char List.mem_cons_self]
          rfl
  | cons char rest induction =>
      rw [List.cons_append, List.dropWhile_cons, List.dropWhile_cons]
      split
      · exact induction
      · rfl

/-- What is appended stays when it is visible. -/
theorem cleaned_append (url : String) {tail : String}
    (visible : ∀ char ∈ tail.toList, 32 < char.toNat) :
    cleaned (url ++ tail) = cleaned url ++ tail.toList := by
  have whole : tail.toList.filter (fun char =>
      !(char == '\t' || char == '\r' || char == '\n')) = tail.toList := by
    rw [List.filter_eq_self]
    intro char member
    have large := visible char member
    have other : char ≠ '\t' ∧ char ≠ '\r' ∧ char ≠ '\n' := by
      refine ⟨?_, ?_, ?_⟩
      all_goals
        rintro rfl
        revert large
        decide
    simp [other]
  unfold cleaned
  rw [String.toList_append, drop_while_append, List.filter_append, whole]
  intro char member
  simpa using visible char member

/-- A URL without `#` has no fragment. -/
theorem urlsplit_no_fragment {url : String} {parts : SplitResult}
    (found : urlsplit url = some parts) (absent : '#' ∉ url.toList) : parts.fragment = "" := by
  obtain ⟨front, rest, components⟩ := urlsplit_components found
  have none : '#' ∉ rest := by
    intro member
    apply absent
    apply mem_cleaned
    rw [components.text]
    exact List.mem_append_right front member
  have empty := components.fragment
  rw [after_absent none] at empty
  exact String.toList_eq_nil_iff.1 empty

end OAuth2Server.Url
