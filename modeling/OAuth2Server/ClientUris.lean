import OAuth2Server.Url
import Mathlib.Algebra.Group.Nat.Defs

/-!
# Client URIs

The rules of `services/clients.py` for the URIs a client may register and use.
A redirect URI is an absolute http(s) URL without a fragment. A `jwks_uri`, which
the server fetches itself, is also kept off the local machine, whatever
spelling of an address names it: `ipaddress` and `inet_aton` are written out here.
A requested redirect URI is a registered one, up to the port of a loopback literal.
-/

namespace OAuth2Server.ClientUris

open OAuth2Server Url

set_option autoImplicit false

/-! ### `str` methods -/

/-- The ranges of `str.isdigit`, in the Unicode version of the interpreter. -/
def digitRanges : List (Nat × Nat) :=
  [(48, 57), (178, 179), (185, 185), (1632, 1641), (1776, 1785), (1984, 1993), (2406, 2415),
    (2534, 2543), (2662, 2671), (2790, 2799), (2918, 2927), (3046, 3055), (3174, 3183),
    (3302, 3311), (3430, 3439), (3558, 3567), (3664, 3673), (3792, 3801), (3872, 3881),
    (4160, 4169), (4240, 4249), (4969, 4977), (6112, 6121), (6160, 6169), (6470, 6479),
    (6608, 6618), (6784, 6793), (6800, 6809), (6992, 7001), (7088, 7097), (7232, 7241),
    (7248, 7257), (8304, 8304), (8308, 8313), (8320, 8329), (9312, 9320), (9332, 9340),
    (9352, 9360), (9450, 9450), (9461, 9469), (9471, 9471), (10102, 10110), (10112, 10120),
    (10122, 10130), (42528, 42537), (43216, 43225), (43264, 43273), (43472, 43481),
    (43504, 43513), (43600, 43609), (44016, 44025), (65296, 65305), (66720, 66729),
    (68160, 68163), (68912, 68921), (69216, 69224), (69714, 69722), (69734, 69743),
    (69872, 69881), (69942, 69951), (70096, 70105), (70384, 70393), (70736, 70745),
    (70864, 70873), (71248, 71257), (71360, 71369), (71472, 71481), (71904, 71913),
    (72016, 72025), (72784, 72793), (73040, 73049), (73120, 73129), (73552, 73561),
    (92768, 92777), (92864, 92873), (93008, 93017), (120782, 120831), (123200, 123209),
    (123632, 123641), (124144, 124153), (125264, 125273), (127232, 127242), (130032, 130041)]

/-- `text.isdigit()`. -/
def isDigits (text : List Char) : Bool :=
  !text.isEmpty && text.all fun char =>
    digitRanges.any fun range => range.1 ≤ char.toNat && char.toNat ≤ range.2

def endsWith (text ending : List Char) : Bool := ending.isSuffixOf text

/-! ### Redirect URIs -/

/-- `is_valid_redirect_uri(uri)`; `none` is the `ValueError` of `urlparse`. -/
def isValidRedirectUri (uri : String) : Option Bool :=
  (urlsplit uri).map fun parsed =>
    let hasFragment := parsed.fragment != "" || endsWith uri.toList ['#']
    (parsed.scheme == "http" || parsed.scheme == "https") && parsed.netloc != "" && !hasFragment

/-- `all(is_valid_redirect_uri(u) for u in uris)`, which stops at the first refusal. -/
def allValidRedirectUris : List String → Option Bool
  | [] => some true
  | uri :: rest =>
      match isValidRedirectUri uri with
      | none => none
      | some false => some false
      | some true => allValidRedirectUris rest

/-! ### Addresses -/

inductive Address where
  | v4 (value : Nat)
  | v6 (value : Nat)
  deriving DecidableEq, Repr

def numeral (base : Nat) (digits : List Char) : Nat :=
  digits.foldl (fun total digit => total * base + (Text.hexDigit digit).getD 0) 0

def ipv4Value (text : List Char) : Nat :=
  (splitOn '.' text).foldl (fun total octet => total * 256 + numeral 10 octet) 0

/-- The hextets as they are written, `none` for an empty one; a dotted tail is two of them. -/
def hextets (text : List Char) : List (Option Nat) :=
  let raw := splitOn ':' text
  let hextet := fun part : List Char => if part.isEmpty then none else some (numeral 16 part)
  let last := raw.getLastD []
  if last.contains '.' then
    raw.dropLast.map hextet ++ [some (ipv4Value last / 65536), some (ipv4Value last % 65536)]
  else raw.map hextet

/-- The zeros of `::` stand between the hextets before it and those after it. -/
def ipv6Value (text : List Char) : Nat :=
  let parts := hextets (before '%' text)
  let high := parts.takeWhile Option.isSome
  let low := if high.length == parts.length then []
    else (parts.reverse.takeWhile Option.isSome).reverse
  let zeros := List.replicate (8 - (high.length + low.length)) (some 0)
  (high ++ zeros ++ low).foldl (fun total part => total * 65536 + part.getD 0) 0

/-- `ipaddress.ip_address(host)`; `none` is `ValueError`. -/
def ipAddress (host : List Char) : Option Address :=
  if isIPv4 host then some (.v4 (ipv4Value host))
  else if isIPv6 host then some (.v6 (ipv6Value host))
  else none

/-- `strtoul(text, &end, 0)` of a text that starts with a digit. -/
def strtoul (text : List Char) : Nat × List Char :=
  let parse := fun (base : Nat) (accepts : Char → Bool) (start : List Char) =>
    (numeral base (start.takeWhile accepts), start.dropWhile accepts)
  match text with
  | '0' :: mark :: rest =>
      if (mark == 'x' || mark == 'X') && (rest.head?.map isHexDigit).getD false then
        parse 16 isHexDigit rest
      else parse 8 (fun char => '0' ≤ char && char ≤ '7') text
  | _ => parse 10 isAsciiDigit text

/-- `isspace` of the C locale. -/
def isCSpace (char : Char) : Bool :=
  char == ' ' || (9 ≤ char.toNat && char.toNat ≤ 13)

/-- The parts of a dotted address from the one after `seen` on. The last part
fills the bytes that are left, and anything may follow it after a blank. -/
def inetAtonFrom : Nat → List Nat → List Char → Option Nat
  | 0, _, _ => none
  | parts + 1, seen, text =>
      if !(text.head?.map isAsciiDigit).getD false then none
      else
        let (value, rest) := strtoul text
        if 0xffffffff < value then none
        else match rest with
          | '.' :: more =>
              if 3 ≤ seen.length || 255 < value then none
              else inetAtonFrom parts (seen ++ [value]) more
          | _ =>
              let room := 256 ^ (4 - seen.length)
              if (rest.head?.map isCSpace).getD true && value < room then
                some (seen.foldl (fun total byte => total * 256 + byte) 0 * room + value)
              else none

/-- `socket.inet_aton(host)`; `none` is `OSError`. -/
def inetAton (host : List Char) : Option Nat := inetAtonFrom 4 [] host

/-- `_loose_ipv4(host)`. A NUL in the host raises a `ValueError` that nothing
catches: the outer `none`. -/
def looseIpv4 (host : List Char) : Option (Option Address) :=
  if host.contains '\x00' then none else some ((inetAton host).map .v4)

/-- `address.ipv4_mapped`, unwrapped. -/
def unmapped : Address → Address
  | .v4 value => .v4 value
  | .v6 value => if value / 2 ^ 32 == 0xffff then .v4 (value % 2 ^ 32) else .v6 value

/-- `address.is_loopback or address.is_link_local or address.is_unspecified`. -/
def isLocal : Address → Bool
  | .v4 value => value / 2 ^ 24 == 127 || value / 2 ^ 16 == 169 * 256 + 254 || value == 0
  | .v6 value => value == 1 || value / 2 ^ 118 == 0x3fa || value == 0

/-! ### `jwks_uri` -/

/-- `parsed.hostname or ""`; a zone keeps its case. -/
def hostname (lower : String → String) (parsed : SplitResult) : List Char :=
  let hostinfo := afterLast '@' parsed.netloc.toList
  let host := if hostinfo.contains '[' then before ']' (after '[' hostinfo)
    else before ':' hostinfo
  (lower (String.ofList (before '%' host))).toList ++ host.dropWhile (· != '%')

/-- `is_valid_jwks_uri(uri)`; `none` is a `ValueError` that escapes. -/
def isValidJwksUri (lower : String → String) (uri : String) : Option Bool := do
  let parsed ← urlsplit uri
  if parsed.scheme != "https" || parsed.netloc == "" then return false
  if parsed.fragment != "" || endsWith uri.toList ['#'] then return false
  let host := hostname lower parsed
  if host.isEmpty then return false
  if host == "localhost".toList || endsWith host ".localhost".toList then return false
  if isDigits (host.filter (· != '.')) then return false
  match ipAddress host with
  | some address => return !isLocal (unmapped address)
  | none =>
      match ← looseIpv4 host with
      | none => return true
      | some address => return !isLocal (unmapped address)

example : isValidJwksUri Text.lower "https://0x7f.1/keys" = some false := by decide +kernel

example : isValidJwksUri Text.lower "https://keys.example/jwks" = some true := by decide +kernel

/-! ### Matching -/

/-- `_LOOPBACK_IP_LITERALS`. -/
def loopbackIpLiterals : List (List Char) := ["127.0.0.1".toList, "::1".toList]

/-- `parsed.port`; the outer `none` is `ValueError`. -/
def port (parsed : SplitResult) : Option (Option Nat) :=
  let hostinfo := afterLast '@' parsed.netloc.toList
  let text := if hostinfo.contains '[' then after ':' (after ']' (after '[' hostinfo))
    else after ':' hostinfo
  if text.isEmpty then some none
  else if text.all isAsciiDigit && text.length ≤ 4300 && numeral 10 text ≤ 65535 then
    some (some (numeral 10 text))
  else none

/-- `urlparse(url).path` of an http URL: the parameters of the last segment are cut off. -/
def pathWithoutParams (path : List Char) : List Char :=
  let segment := afterLast '/' path
  path.take (path.length - segment.length) ++ before ';' segment

/-- `redirect_uri_matches(registered, requested)`; `none` is a `ValueError`. -/
def redirectUriMatches (lower : String → String) (registered requested : String) :
    Option Bool := do
  if requested == registered then return true
  let reg ← urlsplit registered
  let req ← urlsplit requested
  if reg.scheme != "http" || reg.scheme != req.scheme then return false
  let host := hostname lower reg
  if !loopbackIpLiterals.contains host || host != hostname lower req then return false
  if (← port reg).isSome then return false
  return pathWithoutParams reg.path.toList == pathWithoutParams req.path.toList

example : redirectUriMatches Text.lower "http://127.0.0.1/cb" "http://127.0.0.1:8080/cb" =
    some true := by decide +kernel

example : redirectUriMatches Text.lower "https://app.example/cb" "https://app.example/cb/" =
    some false := by decide +kernel

/-- The text before the last `@` of a network location, which `username` and
`password` are cut from. -/
def userinfo (parsed : SplitResult) : Option (List Char) :=
  let netloc := parsed.netloc.toList
  if netloc.contains '@' then
    some (netloc.take (netloc.length - (afterLast '@' netloc).length - 1))
  else none

/-- The comparison of the two splittings, one check after the other. -/
def loopbackMatches (lower : String → String) (reg req : SplitResult) : Option Bool := do
  if reg.scheme != "http" || reg.scheme != req.scheme then return false
  let host := hostname lower reg
  if !loopbackIpLiterals.contains host || host != hostname lower req then return false
  if (← port reg).isSome then return false
  return pathWithoutParams reg.path.toList == pathWithoutParams req.path.toList

end OAuth2Server.ClientUris
