import OAuth2Server.JsonStrings
import OAuth2Server.ProofRejection

/-!
# A thumbprint names one key

The thumbprint of a proof is taken from the members its key type requires; the
signature is verified with the key the algorithm's family builds from the same
JWK. The two readings agree: the families only build from their own key type,
from the very members that were digested.
-/

namespace OAuth2Server.ThumbprintKeys

open OAuth2Server Models JsonText Storage Effects Interaction Interaction.Program
open ClientAuth Dpop ProofRejection

set_option autoImplicit false

/-! ### The digested text -/

/-- A literal ends where it ends, whatever follows. -/
theorem quote_text_append {first second : String} {afterFirst afterSecond : List Char}
    (same : (quoteText first).toList ++ afterFirst = (quoteText second).toList ++ afterSecond) :
    first = second ∧ afterFirst = afterSecond := by
  have written : ∀ text : String, ∀ rest : List Char, (quoteText text).toList ++ rest =
      '"' :: (text.toList.flatMap escapeChar ++ '"' :: rest) := by
    intro text rest
    unfold quoteText
    rw [String.toList_ofList]
    simp
  rw [written, written] at same
  have tails := List.tail_eq_of_cons_eq same
  let fuel := first.toList.length + second.toList.length + 1
  have readFirst := JsonStrings.parse_written escapeChar JsonStrings.parse_escape_char
    first.toList afterFirst fuel (by omega)
  have readSecond := JsonStrings.parse_written escapeChar JsonStrings.parse_escape_char
    second.toList afterSecond fuel (by omega)
  rw [tails, readSecond] at readFirst
  have pair := Prod.mk.inj (Except.ok.inj readFirst)
  exact ⟨(String.toList_injective pair.1).symm, pair.2.symm⟩

/-- An object whose members are texts. -/
def strings (pairs : List (String × String)) : List (String × Json) :=
  pairs.map fun pair => (pair.1, .str pair.2)

/-- How the canonical form writes one member. -/
def memberText (pair : String × String) : List Char :=
  (quoteText pair.1).toList ++ ':' :: (quoteText pair.2).toList

/-- The style of the canonical form. -/
def canonical (env : Env) : DumpStyle where
  itemSeparator := ","
  keySeparator := ":"
  sortKeys := true
  floatRepr := env.platform.floatRepr

theorem dumps_members_strings (style : DumpStyle) (pairs : List (String × String)) :
    dumpsMembers style (strings pairs) = pairs.map fun pair => (pair.1, quoteText pair.2) := by
  induction pairs with
  | nil => rfl
  | cons pair later induction =>
      show (pair.1, dumps style (.str pair.2)) :: dumpsMembers style (strings later) = _
      rw [induction, dumps]
      rfl

theorem dumps_strings (env : Env) (pairs : List (String × String))
    (sorted : pairs.Pairwise fun first second => first.1 ≤ second.1) :
    (dumps (canonical env) (.obj (strings pairs))).toList =
      '\x7b' :: ([','].intercalate (pairs.map memberText) ++ ['\x7d']) := by
  have ordered : (pairs.map fun pair => (pair.1, quoteText pair.2)).insertionSort
      (fun left right => left.1 ≤ right.1) = pairs.map fun pair => (pair.1, quoteText pair.2) :=
    List.Pairwise.insertionSort_eq (List.pairwise_map.2 sorted)
  have separator : (",":String).toList = [','] := rfl
  have opening : ("\x7b":String).toList = ['\x7b'] := rfl
  have closing : ("\x7d":String).toList = ['\x7d'] := rfl
  have written : ∀ pair : String × String,
      (quoteText pair.1 ++ ":" ++ quoteText pair.2).toList = memberText pair := by
    intro pair
    rw [String.toList_append, String.toList_append, List.append_assoc]
    rfl
  have members : ((pairs.map fun pair => (pair.1, quoteText pair.2)).map fun pair =>
      quoteText pair.1 ++ ":" ++ pair.2).map String.toList = pairs.map memberText := by
    rw [List.map_map, List.map_map]
    exact List.map_congr_left fun pair _ => written pair
  rw [dumps, dumps_members_strings]
  show ("\x7b" ++ String.intercalate "," (((pairs.map fun pair => (pair.1, quoteText pair.2)).insertionSort
    fun left right => left.1 ≤ right.1).map fun pair =>
      quoteText pair.1 ++ ":" ++ pair.2) ++ "\x7d").toList = _
  rw [ordered, String.toList_append, String.toList_append, String.toList_intercalate, members,
    separator, opening, closing]
  rfl

/-- The members can be read off the text of a canonical form. -/
theorem members_text_injective {first second : List (String × String)} (present : first ≠ [])
    (alsoPresent : second ≠ [])
    (same : [','].intercalate (first.map memberText) ++ ['\x7d'] =
      [','].intercalate (second.map memberText) ++ ['\x7d']) : first = second := by
  have opened : ∀ (pair : String × String) (later : List (String × String)),
      [','].intercalate ((pair :: later).map memberText) ++ ['\x7d'] =
        (quoteText pair.1).toList ++ (':' :: ((quoteText pair.2).toList ++
          match later with
          | [] => ['\x7d']
          | _ :: _ => ',' :: ([','].intercalate (later.map memberText) ++ ['\x7d']))) := by
    intro pair later
    cases later with
    | nil => simp [memberText]
    | cons next others => simp [memberText]
  induction first generalizing second with
  | nil => exact absurd rfl present
  | cons pair later induction =>
      cases second with
      | nil => exact absurd rfl alsoPresent
      | cons other others =>
          rw [opened, opened] at same
          obtain ⟨keys, values⟩ := quote_text_append same
          obtain ⟨texts, rest⟩ := quote_text_append (List.tail_eq_of_cons_eq values)
          have head : pair = other := Prod.ext keys texts
          rw [head]
          cases later with
          | nil =>
              cases others with
              | nil => rfl
              | cons next more => exact absurd (List.head_eq_of_cons_eq rest) (by decide)
          | cons next more =>
              cases others with
              | nil => exact absurd (List.head_eq_of_cons_eq rest) (by decide)
              | cons nextOther moreOthers =>
                  rw [induction (List.cons_ne_nil _ _) (List.cons_ne_nil _ _)
                    (List.tail_eq_of_cons_eq rest)]

theorem dumps_strings_injective (env : Env) {first second : List (String × String)}
    (present : first ≠ []) (alsoPresent : second ≠ [])
    (sorted : first.Pairwise fun left right => left.1 ≤ right.1)
    (alsoSorted : second.Pairwise fun left right => left.1 ≤ right.1)
    (same : dumps (canonical env) (.obj (strings first)) =
      dumps (canonical env) (.obj (strings second))) : first = second := by
  have texts := congrArg String.toList same
  rw [dumps_strings env first sorted, dumps_strings env second alsoSorted] at texts
  exact members_text_injective present alsoPresent (List.tail_eq_of_cons_eq texts)

/-! ### The key of a proof -/

/-- `from_jwk` of the two families: each builds a key of its own type only, from
exactly the members that are digested, which are texts. -/
structure KeyLibrary (κ : Type) (library : JwtLibrary) where
  fromJwk : String → Json → Option κ
  rsaKey : String → String → κ
  ecKey : String → String → String → κ
  builds : ∀ family jwk kind, library.jwkKind family jwk = .ok kind →
    (fromJwk family jwk).isSome = true
  fromRsa : ∀ jwk key, fromJwk "RSA" jwk = some key → jwk.get? "kty" = some (.str "RSA") ∧
    ∃ n e, jwk.get? "n" = some (.str n) ∧ jwk.get? "e" = some (.str e) ∧ key = rsaKey n e
  fromEc : ∀ jwk key, fromJwk "EC" jwk = some key → jwk.get? "kty" = some (.str "EC") ∧
    ∃ crv x y, jwk.get? "crv" = some (.str crv) ∧ jwk.get? "x" = some (.str x) ∧
      jwk.get? "y" = some (.str y) ∧ key = ecKey crv x y

variable {κ : Type}

/-- The public key the signature of a proof is verified with. -/
def verificationKey (env : Env) (library : KeyLibrary κ env.platform.jwt) (proof : String) :
    Option κ :=
  match env.platform.jwt.unverifiedHeader proof with
  | .error _ => none
  | .ok header =>
      match header.lookup "jwk", header.lookup "alg" with
      | some jwk, some (.str alg) => library.fromJwk (keyFamily alg) jwk
      | _, _ => none

theorem proof_algorithm_ok {header : List (String × Json)} {alg : String}
    (found : proofAlgorithm header = .ok alg) : header.lookup "alg" = some (.str alg) := by
  unfold proofAlgorithm at found
  split at found
  · next listed same =>
      split at found
      · cases found
        exact same
      · cases found
  · cases found
  · cases found
  · cases found

/-- What a header that passes its checks announces. -/
theorem announced_ok {env : Env} {proof : String} {key : Announced}
    (passed : announced env proof = .ok key) :
    jwkThumbprint env key.jwk = .ok key.jkt ∧
      (∃ kind, env.platform.jwt.jwkKind (keyFamily key.alg) key.jwk = .ok kind) ∧
      ∀ library : KeyLibrary κ env.platform.jwt,
        verificationKey env library proof = library.fromJwk (keyFamily key.alg) key.jwk := by
  unfold announced at passed
  unfold verificationKey
  cases read : env.platform.jwt.unverifiedHeader proof with
  | error refused =>
      rw [read] at passed
      cases refused <;> cases passed
  | ok header =>
      rw [read] at passed
      simp only [pure_bind] at passed
      split at passed
      · cases passed
      split at passed
      · next member members carried =>
          cases thumbprint : jwkThumbprint env (.obj (member :: members)) with
          | error raised =>
              rw [thumbprint] at passed
              cases passed
          | ok jkt =>
              rw [thumbprint] at passed
              cases chosen : proofAlgorithm header with
              | error raised =>
                  rw [chosen] at passed
                  cases passed
              | ok alg =>
                  rw [chosen, except_ok_bind, except_ok_bind] at passed
                  cases kind : env.platform.jwt.jwkKind (keyFamily alg)
                      (.obj (member :: members)) with
                  | error message =>
                      rw [kind] at passed
                      cases passed
                  | ok built =>
                      rw [kind] at passed
                      cases passed
                      have named := proof_algorithm_ok chosen
                      apply And.intro thumbprint
                      apply And.intro ⟨built, kind⟩
                      intro library
                      simp only [carried, named]
      · cases passed

/-- An accepted proof has the thumbprint of the key it announces. -/
theorem accepted_announced {env : Env} {proof method url : String} {accessToken : Option String}
    {world later : World} {validated : Validated}
    (accepted : (validateDpopProof env proof method url accessToken).run env.interp world =
      (.ok validated, later)) :
    ∃ key, announced env proof = .ok key ∧ validated.jkt = key.jkt := by
  rcases validate_run env proof method url accessToken world with
    ⟨raised, failed, -, ran, -⟩ | ⟨shown, reached, decided, ran, -⟩
  · rw [accepted] at ran
    cases ran
  · have same : validated = shown.1 := by
      rw [accepted] at ran
      rcases recorded_run env shown reached with inserted | ⟨swept, replayed, -⟩
      · rw [inserted] at ran
        exact Except.ok.inj (Prod.mk.inj ran).1
      · rw [replayed] at ran
        cases ran
    rw [same]
    unfold verdict at decided
    cases passed : announced env proof with
    | error raised =>
        rw [passed] at decided
        cases decided
    | ok key =>
        rw [passed, except_ok_bind] at decided
        apply Exists.intro key
        apply And.intro rfl
        obtain ⟨claims, -, decided⟩ := except_bind_eq_ok.1 decided
        obtain ⟨iat, -, decided⟩ := except_bind_eq_ok.1 decided
        unfold dated at decided
        obtain ⟨-, -, decided⟩ := except_bind_eq_ok.1 decided
        obtain ⟨nonce, -, decided⟩ := except_bind_eq_ok.1 decided
        split at decided
        · cases decided
          rfl
        · cases decided

/-! ### One key for a thumbprint -/

theorem rsa_thumbprint (env : Env) {jwk : Json} {n e : String}
    (kind : jwk.get? "kty" = some (.str "RSA")) (modulus : jwk.get? "n" = some (.str n))
    (exponent : jwk.get? "e" = some (.str e)) :
    jwkThumbprint env jwk = .ok (env.platform.sha256Url
      (dumps (canonical env) (.obj (strings [("e", e), ("kty", "RSA"), ("n", n)])))) := by
  have members : thumbprintMembers jwk = some (strings [("e", e), ("kty", "RSA"), ("n", n)]) := by
    unfold thumbprintMembers
    rw [kind]
    simp only [modulus, exponent]
    rfl
  unfold jwkThumbprint
  rw [members]
  rfl

theorem ec_thumbprint (env : Env) {jwk : Json} {crv x y : String}
    (kind : jwk.get? "kty" = some (.str "EC")) (curve : jwk.get? "crv" = some (.str crv))
    (first : jwk.get? "x" = some (.str x)) (second : jwk.get? "y" = some (.str y)) :
    jwkThumbprint env jwk = .ok (env.platform.sha256Url
      (dumps (canonical env) (.obj (strings
        [("crv", crv), ("kty", "EC"), ("x", x), ("y", y)])))) := by
  have members : thumbprintMembers jwk =
      some (strings [("crv", crv), ("kty", "EC"), ("x", x), ("y", y)]) := by
    unfold thumbprintMembers
    rw [kind]
    simp only [curve, first, second]
    rfl
  unfold jwkThumbprint
  rw [members]
  rfl

/-- The members a thumbprint digests and the key built from them. -/
def Digested (library : JwtLibrary) (keys : KeyLibrary κ library)
    (members : List (String × String)) (key : κ) : Prop :=
  (∃ n e, members = [("e", e), ("kty", "RSA"), ("n", n)] ∧ key = keys.rsaKey n e) ∨
    ∃ crv x y, members = [("crv", crv), ("kty", "EC"), ("x", x), ("y", y)] ∧
      key = keys.ecKey crv x y

theorem digested_unique {library : JwtLibrary} {keys : KeyLibrary κ library}
    {members : List (String × String)} {first second : κ}
    (one : Digested library keys members first) (other : Digested library keys members second) :
    first = second := by
  rcases one with ⟨n, e, listed, key⟩ | ⟨crv, x, y, listed, key⟩
  · rcases other with ⟨n', e', listed', key'⟩ | ⟨crv', x', y', listed', key'⟩
    · rw [listed] at listed'
      simp only [List.cons.injEq, Prod.mk.injEq, true_and, and_true] at listed'
      rw [key, key', listed'.1, listed'.2]
    · rw [listed] at listed'
      cases congrArg List.length listed'
  · rcases other with ⟨n', e', listed', key'⟩ | ⟨crv', x', y', listed', key'⟩
    · rw [listed] at listed'
      cases congrArg List.length listed'
    · rw [listed] at listed'
      simp only [List.cons.injEq, Prod.mk.injEq, true_and, and_true] at listed'
      rw [key, key', listed'.1, listed'.2.1, listed'.2.2]

theorem digested_order {library : JwtLibrary} {keys : KeyLibrary κ library}
    {members : List (String × String)} {key : κ} (digested : Digested library keys members key) :
    members ≠ [] ∧ members.Pairwise fun left right => left.1 ≤ right.1 := by
  rcases digested with ⟨n, e, listed, -⟩ | ⟨crv, x, y, listed, -⟩
  · rw [listed]
    apply And.intro (List.cons_ne_nil _ _)
    apply List.pairwise_map.1
    show ["e", "kty", "n"].Pairwise (· ≤ ·)
    decide
  · rw [listed]
    apply And.intro (List.cons_ne_nil _ _)
    apply List.pairwise_map.1
    show ["crv", "kty", "x", "y"].Pairwise (· ≤ ·)
    decide

theorem key_family_cases (alg : String) : keyFamily alg = "RSA" ∨ keyFamily alg = "EC" := by
  unfold keyFamily
  split
  · exact Or.inl rfl
  · exact Or.inr rfl

/-- The key of an accepted proof is built from what its thumbprint digests. -/
theorem accepted_digested {env : Env} (keys : KeyLibrary κ env.platform.jwt)
    {proof method url : String} {accessToken : Option String} {world later : World}
    {validated : Validated}
    (accepted : (validateDpopProof env proof method url accessToken).run env.interp world =
      (.ok validated, later)) :
    ∃ members key, verificationKey env keys proof = some key ∧
      Digested env.platform.jwt keys members key ∧
      validated.jkt =
        env.platform.sha256Url (dumps (canonical env) (.obj (strings members))) := by
  obtain ⟨announcement, passed, jkt⟩ := accepted_announced accepted
  obtain ⟨thumbprint, ⟨kind, supported⟩, used⟩ := @announced_ok κ env proof announcement passed
  obtain ⟨key, built⟩ := Option.isSome_iff_exists.1
    (keys.builds (keyFamily announcement.alg) announcement.jwk kind supported)
  rcases key_family_cases announcement.alg with rsa | ec
  · rw [rsa] at built
    obtain ⟨kty, n, e, modulus, exponent, same⟩ := keys.fromRsa announcement.jwk key built
    rw [rsa_thumbprint env kty modulus exponent] at thumbprint
    apply Exists.intro [("e", e), ("kty", "RSA"), ("n", n)]
    apply Exists.intro key
    apply And.intro ((used keys).trans (by rw [rsa]; exact built))
    rw [same, jkt]
    exact ⟨Or.inl ⟨n, e, rfl, rfl⟩, (Except.ok.inj thumbprint).symm⟩
  · rw [ec] at built
    obtain ⟨kty, crv, x, y, curve, first, second, same⟩ :=
      keys.fromEc announcement.jwk key built
    rw [ec_thumbprint env kty curve first second] at thumbprint
    apply Exists.intro [("crv", crv), ("kty", "EC"), ("x", x), ("y", y)]
    apply Exists.intro key
    apply And.intro ((used keys).trans (by rw [ec]; exact built))
    rw [same, jkt]
    exact ⟨Or.inr ⟨crv, x, y, rfl, rfl⟩, (Except.ok.inj thumbprint).symm⟩

/-- Two accepted proofs with one thumbprint were verified with one key. -/
theorem thumbprint_names_one_key (env : Env) (keys : KeyLibrary κ env.platform.jwt)
    (collisionFree : Function.Injective env.platform.sha256Url)
    (proof method url : String) (accessToken : Option String) (world later : World)
    (validated : Validated)
    (accepted : (validateDpopProof env proof method url accessToken).run env.interp world =
      (.ok validated, later))
    (proof' method' url' : String) (accessToken' : Option String) (world' later' : World)
    (validated' : Validated)
    (accepted' : (validateDpopProof env proof' method' url' accessToken').run env.interp world' =
      (.ok validated', later'))
    (same : validated.jkt = validated'.jkt) :
    ∃ key, verificationKey env keys proof = some key ∧
      verificationKey env keys proof' = some key := by
  obtain ⟨members, key, built, digested, jkt⟩ := accepted_digested keys accepted
  obtain ⟨members', key', built', digested', jkt'⟩ := accepted_digested keys accepted'
  have texts := collisionFree (jkt.symm.trans (same.trans jkt'))
  obtain ⟨present, sorted⟩ := digested_order digested
  obtain ⟨present', sorted'⟩ := digested_order digested'
  have equal := dumps_strings_injective env present present' sorted sorted' texts
  rw [equal] at digested
  apply Exists.intro key
  apply And.intro built
  rw [built', digested_unique digested digested']

/-! A library that keeps what a key is built from, and two proofs of one holder. -/

def sampleFromJwk (family : String) (jwk : Json) : Option (String × List String) :=
  if family = "RSA" then
    match jwk.get? "kty", jwk.get? "n", jwk.get? "e" with
    | some (.str "RSA"), some (.str n), some (.str e) => some ("RSA", [n, e])
    | _, _, _ => none
  else
    match jwk.get? "kty", jwk.get? "crv", jwk.get? "x", jwk.get? "y" with
    | some (.str "EC"), some (.str crv), some (.str x), some (.str y) =>
        some ("EC", [crv, x, y])
    | _, _, _, _ => none

def sampleLibrary : JwtLibrary :=
  { ReferenceJwt.library with
    jwkKind := fun family jwk =>
      if (sampleFromJwk family jwk).isSome then .ok .publicKey else .error "Invalid key" }

def sampleKeys : KeyLibrary (String × List String) sampleLibrary where
  fromJwk := sampleFromJwk
  rsaKey n e := ("RSA", [n, e])
  ecKey crv x y := ("EC", [crv, x, y])
  builds := by
    intro family jwk kind built
    change (if (sampleFromJwk family jwk).isSome then Except.ok KeyKind.publicKey
      else .error "Invalid key") = .ok kind at built
    by_contra missing
    rw [if_neg missing] at built
    cases built
  fromRsa := by
    intro jwk key built
    unfold sampleFromJwk at built
    rw [if_pos rfl] at built
    split at built
    · next n e kty modulus exponent =>
        exact ⟨kty, n, e, modulus, exponent, (Option.some.inj built).symm⟩
    · cases built
  fromEc := by
    intro jwk key built
    unfold sampleFromJwk at built
    rw [if_neg (by decide)] at built
    split at built
    · next crv x y kty curve first second =>
        exact ⟨kty, crv, x, y, curve, first, second, (Option.some.inj built).symm⟩
    · cases built

def holderEnv : Env :=
  { Runs.sampleEnv with
    platform := { Runs.samplePlatform with jwt := sampleLibrary, sha256Url := id } }

/-- A proof of the holder of `n` under an algorithm; the order of the members
of its JWK and a further member vary with the algorithm. -/
def holderProof (alg : String) : String :=
  let jwk := if alg = "RS256" then
      Json.obj [("kty", .str "RSA"), ("e", .str "e"), ("n", .str "n")]
    else Json.obj [("n", .str "n"), ("kid", .str "k"), ("e", .str "e"), ("kty", .str "RSA")]
  ReferenceJwt.sign
    (.obj [("alg", .str alg), ("typ", .str "dpop+jwt"), ("jwk", jwk)])
    (.obj [("htm", .str "POST"), ("htu", .str "u"), ("iat", .int 0), ("jti", .str "j")])
    (ReferenceJwt.verifyKeyJson (.jwk "RSA" jwk))

def acceptedJkt (proof : String) : Option String :=
  ((validateDpopProof holderEnv proof "POST" "u" none).run holderEnv.interp
    Runs.sampleTokenWorld).1.toOption.map Validated.jkt

theorem accepted_jkt_some {proof jkt : String} (shown : acceptedJkt proof = some jkt) :
    ∃ validated later, (validateDpopProof holderEnv proof "POST" "u" none).run holderEnv.interp
        Runs.sampleTokenWorld = (.ok validated, later) ∧ validated.jkt = jkt := by
  unfold acceptedJkt at shown
  generalize (validateDpopProof holderEnv proof "POST" "u" none).run holderEnv.interp
    Runs.sampleTokenWorld = outcome at shown ⊢
  rcases outcome with ⟨raised | validated, later⟩
  · cases shown
  · exact ⟨validated, later, rfl, Option.some.inj shown⟩

theorem holder_proofs_name_one_key :
    ∃ key, verificationKey holderEnv sampleKeys (holderProof "RS256") = some key ∧
      verificationKey holderEnv sampleKeys (holderProof "PS256") = some key := by
  have shown : acceptedJkt (holderProof "RS256") = acceptedJkt (holderProof "PS256") ∧
      (acceptedJkt (holderProof "RS256")).isSome := by
    decide +kernel
  obtain ⟨jkt, first⟩ := Option.isSome_iff_exists.1 shown.2
  obtain ⟨validated, later, accepted, same⟩ := accepted_jkt_some first
  obtain ⟨validated', later', accepted', same'⟩ := accepted_jkt_some (shown.1.symm.trans first)
  exact thumbprint_names_one_key holderEnv sampleKeys (fun _ _ equal => equal) _ _ _ _ _ _ _
    accepted _ _ _ _ _ _ _ accepted' (same.trans same'.symm)

end OAuth2Server.ThumbprintKeys
