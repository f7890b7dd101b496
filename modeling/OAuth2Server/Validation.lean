import OAuth2Server.Effects
import OAuth2Server.Url

/-!
# Request parameter checks

`services/limits.py`, `services/rar.py`, `services/resource.py` and
`scope_is_subset`. A check that lets an exception escape which its callers do
not catch raises `Raised.other`.
-/

namespace OAuth2Server.Validation

open OAuth2Server Models JsonText Effects

set_option autoImplicit false

/-- `scope_is_subset(requested, allowed)`. -/
def scopeIsSubset (requested allowed : String) : Bool :=
  (Text.split requested).all fun scope => (Text.split allowed).contains scope

theorem scope_is_subset_iff {requested allowed : String} :
    scopeIsSubset requested allowed = true ↔ Text.split requested ⊆ Text.split allowed := by
  simp [scopeIsSubset, List.subset_def]

/-! ### Limits -/

/-- Why a JSON parameter was refused: a limit, or text that is not JSON, or an
exception the limit helper lets through. -/
inductive ParamError where
  | limit (description : String)
  | decode
  | unhandled

def checkLen (raw name : String) (maxLen : Nat) : Except ParamError Unit :=
  if maxLen < raw.toList.length then
    .error (.limit ("`" ++ name ++ "` exceeds the maximum length of " ++ toString maxLen ++
      " characters"))
  else .ok ()

def depthMessage (name : String) (maxDepth : Nat) : String :=
  "`" ++ name ++ "` exceeds the maximum nesting depth of " ++ toString maxDepth

mutual

/-- How many values a document is made of. -/
def nodes : Json → Nat
  | .arr items => 1 + itemNodes items
  | .obj members => 1 + memberNodes members
  | _ => 1

def itemNodes : List Json → Nat
  | [] => 0
  | item :: rest => nodes item + itemNodes rest

def memberNodes : List (String × Json) → Nat
  | [] => 0
  | (_, value) :: rest => nodes value + memberNodes rest

end

/-- The explicit-stack walk of `check_depth`; each round pops one value, so the
number of values bounds the rounds. -/
def depthWithin (maxDepth : Nat) : Nat → List (Json × Nat) → Bool
  | _, [] => true
  | 0, _ :: _ => true
  | fuel + 1, (node, depth) :: stack =>
      let descend (children : List Json) : Bool :=
        if maxDepth < depth then false
        else depthWithin maxDepth fuel
          ((children.map fun child => (child, depth + 1)).reverse ++ stack)
      match node with
      | .obj members => descend (members.map (·.2))
      | .arr items => descend items
      | _ => depthWithin maxDepth fuel stack

def checkDepth (value : Json) (name : String) (maxDepth : Nat) : Except ParamError Unit :=
  if depthWithin maxDepth (nodes value) [(value, 1)] then .ok ()
  else .error (.limit (depthMessage name maxDepth))

/-- `check_json_param`: length, then parsing, then depth. -/
def checkJsonParam (env : Env) (raw name : String) (maxLen maxDepth : Nat) :
    Except ParamError Json := do
  checkLen raw name maxLen
  match loads env.platform.recursionLimit raw with
  | .error .recursion => throw (.limit (depthMessage name maxDepth))
  | .error .decode => throw .decode
  -- A plain `ValueError`, which no caller expects.
  | .error .digits => throw .unhandled
  | .ok value =>
      checkDepth value name maxDepth
      pure value

/-! ### `authorization_details` -/

def rarError (description : String) : Raised :=
  .oauth "invalid_authorization_details" (some description)

/-- The type checks of one entry. -/
def checkRarEntry (allowedTypes : List String) (entry : Json) : Except Raised Unit :=
  match entry.get? "type" with
  | some (.str kind) =>
      if kind == "" then throw (rarError "authorization_details entry is missing a type")
      else if allowedTypes.contains kind then pure ()
      else throw (rarError ("authorization_details type '" ++ kind ++ "' is not supported"))
  | _ => throw (rarError "authorization_details entry is missing a type")

def validateAuthorizationDetails (env : Env) (raw : String) : Except Raised (List Json) :=
  match checkJsonParam env raw "authorization_details" 16384 10 with
  | .error (.limit description) => throw (rarError description)
  | .error .decode => throw (rarError "authorization_details is not valid JSON")
  | .error .unhandled => throw .other
  | .ok (.arr entries) => do
      if entries.isEmpty || !entries.all Json.isObj then
        throw (rarError "authorization_details must be a JSON array of objects")
      entries.forM (checkRarEntry env.config.rarTypesSupported)
      pure entries
  | .ok _ => throw (rarError "authorization_details must be a JSON array of objects")

/-! ### `resource` -/

def invalidTarget (description : String) : Raised := .oauth "invalid_target" (some description)

/-- `validate_resource`; a `ValueError` of `urlsplit` escapes. -/
def validateResource (value : Option String) : Except Raised (Option String) :=
  match value with
  | none => .ok none
  | some text =>
      match checkLen text "resource" 2048 with
      | .error (.limit description) => .error (invalidTarget description)
      | .error _ => .error .other
      | .ok () =>
          match Url.urlsplit text with
          | none => .error .other
          | some parts =>
              let namesSomething := parts.netloc != "" || parts.path != "" || parts.query != ""
              if parts.scheme == "" || !namesSomething || parts.fragment != "" then
                .error (invalidTarget "resource must be an absolute URI without a fragment")
              else .ok (some text)

/-- A checked resource is the one that was presented. -/
theorem validate_resource_eq {value result : Option String}
    (valid : validateResource value = .ok result) : result = value := by
  cases value with
  | none => simpa [validateResource] using valid.symm
  | some text =>
      simp only [validateResource] at valid
      repeat' split at valid
      all_goals cases valid
      rfl

end OAuth2Server.Validation
