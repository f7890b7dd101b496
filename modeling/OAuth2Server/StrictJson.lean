import OAuth2Server.JsonStrings

/-!
# Documents without repeated keys

`json.loads` with a hook that refuses a repeated key. What the strict reading
accepts, the plain one reads the same way, and both read back every document
that `json.dumps` writes: a document of any shape whose numbers are integers.
What repeats a key anywhere is refused for it.
-/

namespace OAuth2Server.StrictJson

open OAuth2Server JsonText JsonStrings

set_option autoImplicit false

/-! ### The strict reading -/

/-- What the reading raises: the parser's own errors, or that of the hook. -/
inductive StrictError where
  | load (error : LoadError)
  | duplicate (key : String)
  deriving DecidableEq, Repr

/-- What is made of the members of an object, in the order they stand in the text. -/
abbrev Hook := List (String × Json) → Except StrictError Json

def lift {α : Type} (outcome : Except LoadError α) : Except StrictError α :=
  outcome.mapError .load

/-- The first key that an earlier member has already. -/
def repeated : List String → List (String × Json) → Option String
  | _, [] => none
  | seen, (key, _) :: rest => if seen.contains key then some key else repeated (key :: seen) rest

/-- `_reject_duplicate_json_keys`. -/
def rejectDuplicateKeys : Hook := fun members =>
  match repeated [] members with
  | some key => .error (.duplicate key)
  | none => .ok (.obj members)

mutual

def hookedValue (hook : Hook) : Nat → Nat → List Char → Except StrictError (Json × List Char)
  | 0, _, _ => .error (.load .decode)
  | fuel + 1, depth, text =>
      match text with
      | '"' :: rest => lift ((parseString (rest.length + 1) rest).map fun result =>
          (.str (String.ofList result.1), result.2))
      | '[' :: rest =>
          match depth with
          | 0 => .error (.load .recursion)
          | depth + 1 =>
              match skipWhite rest with
              | ']' :: after => .ok (.arr [], after)
              | items => (hookedItems hook fuel depth items).map fun result =>
                  (.arr result.1, result.2)
      | '{' :: rest =>
          match depth with
          | 0 => .error (.load .recursion)
          | depth + 1 =>
              match skipWhite rest with
              | '}' :: after => (hook []).map fun value => (value, after)
              | members => (hookedMembers hook fuel depth members).bind fun result =>
                  (hook result.1).map fun value => (value, result.2)
      | other => lift (parseScalar other)

def hookedItems (hook : Hook) : Nat → Nat → List Char → Except StrictError (List Json × List Char)
  | 0, _, _ => .error (.load .decode)
  | fuel + 1, depth, text =>
      match hookedValue hook fuel depth text with
      | .error error => .error error
      | .ok (item, rest) =>
          match skipWhite rest with
          | ']' :: after => .ok ([item], after)
          | ',' :: after => (hookedItems hook fuel depth (skipWhite after)).map fun result =>
              (item :: result.1, result.2)
          | _ => .error (.load .decode)

def hookedMembers (hook : Hook) : Nat → Nat → List Char →
    Except StrictError (List (String × Json) × List Char)
  | 0, _, _ => .error (.load .decode)
  | fuel + 1, depth, text =>
      match text with
      | '"' :: quoted =>
          match parseString (quoted.length + 1) quoted with
          | .error error => .error (.load error)
          | .ok (key, afterKey) =>
              match skipWhite afterKey with
              | ':' :: rest =>
                  match hookedValue hook fuel depth (skipWhite rest) with
                  | .error error => .error error
                  | .ok (value, afterValue) =>
                      match skipWhite afterValue with
                      | '}' :: after => .ok ([(String.ofList key, value)], after)
                      | ',' :: after => (hookedMembers hook fuel depth (skipWhite after)).map
                          fun result => ((String.ofList key, value) :: result.1, result.2)
                      | _ => .error (.load .decode)
              | _ => .error (.load .decode)
      | _ => .error (.load .decode)

end

/-- `json.loads(text, object_pairs_hook=hook)`. -/
def hookedLoads (hook : Hook) (limit : Nat) (text : String) : Except StrictError Json :=
  match hookedValue hook (2 * text.toList.length + 2) limit (skipWhite text.toList) with
  | .error error => .error error
  | .ok (value, rest) => if (skipWhite rest).isEmpty then .ok value else .error (.load .decode)

/-- `json.loads(text, object_pairs_hook=_reject_duplicate_json_keys)`. -/
def strictLoads (limit : Nat) (text : String) : Except StrictError Json :=
  hookedLoads rejectDuplicateKeys limit text

/-! ### The plain reading agrees -/

/-- The keys of the members, in their order. -/
def keys (members : List (String × Json)) : List String := members.map Prod.fst

theorem repeated_none_iff (members : List (String × Json)) (seen : List String) :
    repeated seen members = none ↔ (keys members).Nodup ∧ ∀ key ∈ keys members, key ∉ seen := by
  induction members generalizing seen with
  | nil => simp [repeated, keys]
  | cons member rest induction =>
      obtain ⟨key, value⟩ := member
      have fold : keys ((key, value) :: rest) = key :: keys rest := rfl
      unfold repeated
      rw [fold, List.nodup_cons]
      by_cases known : key ∈ seen
      · simp [known]
      · rw [if_neg (by simpa using known), induction]
        constructor
        · rintro ⟨distinct, apart⟩
          refine ⟨⟨fun again => apart key again List.mem_cons_self, distinct⟩, ?_⟩
          intro other member
          rcases List.mem_cons.1 member with rfl | member
          · exact known
          · exact fun old => apart other member (List.mem_cons_of_mem _ old)
        · rintro ⟨⟨absent, distinct⟩, apart⟩
          refine ⟨distinct, ?_⟩
          intro other member old
          rcases List.mem_cons.1 old with rfl | old
          · exact absent member
          · exact apart other (List.mem_cons_of_mem _ member) old

theorem repeated_none_nil (members : List (String × Json)) :
    repeated [] members = none ↔ (keys members).Nodup := by
  rw [repeated_none_iff]
  simp

theorem set_member_fresh {key : String} {value : Json} {members : List (String × Json)}
    (fresh : key ∉ keys members) : Json.setMember key value members = members ++ [(key, value)] := by
  induction members with
  | nil => rfl
  | cons member rest induction =>
      have apart : member.1 ≠ key ∧ key ∉ keys rest := by
        simpa [keys, eq_comm, not_or] using fresh
      unfold Json.setMember
      rw [if_neg (by simpa using apart.1), induction apart.2]
      rfl

theorem except_map_ok {ε α β : Type} {outcome : Except ε α} {f : α → β} {value : β} :
    outcome.map f = .ok value ↔ ∃ found, outcome = .ok found ∧ f found = value := by
  cases outcome with
  | error error => simp [Except.map]
  | ok found => simp [Except.map]

theorem lift_ok {α : Type} {outcome : Except LoadError α} {value : α} :
    lift outcome = .ok value ↔ outcome = .ok value := by
  cases outcome with
  | error error => simp [lift, Except.mapError]
  | ok found => simp [lift, Except.mapError]

theorem reject_ok {members : List (String × Json)} {value : Json} :
    rejectDuplicateKeys members = .ok value ↔ (keys members).Nodup ∧ value = .obj members := by
  unfold rejectDuplicateKeys
  cases found : repeated [] members with
  | none => simp [(repeated_none_nil members).1 found, eq_comm]
  | some key =>
      have clash : ¬(keys members).Nodup := fun distinct => by
        rw [(repeated_none_nil members).2 distinct] at found
        cases found
      simp [clash]

theorem lift_map {α β : Type} (outcome : Except LoadError α) (f : α → β) :
    lift (outcome.map f) = (lift outcome).map f := by
  cases outcome <;> rfl

/-- Members written one after the other over those read before. -/
def addMembers (pairs members : List (String × Json)) : List (String × Json) :=
  pairs.foldl (fun grown pair => Json.setMember pair.1 pair.2 grown) members

theorem add_fresh (pairs members : List (String × Json))
    (distinct : (keys (members ++ pairs)).Nodup) : addMembers pairs members = members ++ pairs := by
  induction pairs generalizing members with
  | nil => simp [addMembers]
  | cons pair rest induction =>
      have split : keys (members ++ pair :: rest) = keys members ++ pair.1 :: keys rest := by
        simp [keys]
      have fresh : pair.1 ∉ keys members := by
        rw [split, List.nodup_append] at distinct
        intro known
        exact distinct.2.2 _ known _ List.mem_cons_self rfl
      have grown : members ++ [pair] ++ rest = members ++ pair :: rest := by simp
      have step : addMembers (pair :: rest) members =
          addMembers rest (Json.setMember pair.1 pair.2 members) := rfl
      rw [step, set_member_fresh fresh, induction (members ++ [pair]) (grown ▸ distinct), grown]

/-- The strict outcome, unless it names a repeated key, is the plain one. -/
def Agrees {α : Type} (strict : Except StrictError α) (plain : Except LoadError α) : Prop :=
  (∃ key, strict = .error (.duplicate key)) ∨ strict = lift plain

/-- The same for members: the plain reading adds them to those it has. -/
def MembersAgree (fuel depth : Nat) (text : List Char) : Prop :=
  (∃ key, hookedMembers rejectDuplicateKeys fuel depth text = .error (.duplicate key)) ∨
    ∀ members, lift (parseMembers fuel depth members text) =
      (hookedMembers rejectDuplicateKeys fuel depth text).map fun result =>
        (addMembers result.1 members, result.2)

theorem Agrees.map {α β : Type} {strict : Except StrictError α} {plain : Except LoadError α}
    (agree : Agrees strict plain) (f : α → β) : Agrees (strict.map f) (plain.map f) := by
  cases agree with
  | inl repeats =>
      obtain ⟨key, named⟩ := repeats
      exact .inl ⟨key, by rw [named]; rfl⟩
  | inr same => exact .inr (by rw [same, lift_map])

theorem Agrees.error {α : Type} (error : LoadError) :
    @Agrees α (.error (.load error)) (.error error) := .inr rfl

theorem Agrees.lift {α : Type} (plain : Except LoadError α) : Agrees (lift plain) plain := .inr rfl

/-- How the two readings of a value can turn out. -/
theorem Agrees.cases {α : Type} {strict : Except StrictError α} {plain : Except LoadError α}
    (agree : Agrees strict plain) : (∃ key, strict = .error (.duplicate key)) ∨
      (∃ error, strict = .error (.load error) ∧ plain = .error error) ∨
      ∃ value, strict = .ok value ∧ plain = .ok value := by
  cases agree with
  | inl repeats => exact .inl repeats
  | inr same =>
      cases plain with
      | error error => exact .inr (.inl ⟨error, same, rfl⟩)
      | ok value => exact .inr (.inr ⟨value, same, rfl⟩)

theorem members_agree_error {fuel depth : Nat} {text : List Char} (error : LoadError)
    (strict : hookedMembers rejectDuplicateKeys fuel depth text = .error (.load error))
    (plain : ∀ members, parseMembers fuel depth members text = .error error) :
    MembersAgree fuel depth text := by
  apply Or.inr
  intro members
  rw [strict, plain members]
  rfl

/-- The object that both readings make of the members. -/
theorem object_agrees {fuel depth : Nat} {text : List Char}
    (members : MembersAgree fuel depth text) :
    Agrees ((hookedMembers rejectDuplicateKeys fuel depth text).bind fun result =>
        (rejectDuplicateKeys result.1).map fun value => (value, result.2))
      ((parseMembers fuel depth [] text).map fun result => (.obj result.1, result.2)) := by
  cases members with
  | inl repeats =>
      obtain ⟨key, named⟩ := repeats
      exact .inl ⟨key, by rw [named]; rfl⟩
  | inr same =>
      have read := same []
      cases strict : hookedMembers rejectDuplicateKeys fuel depth text with
      | error error =>
          apply Or.inr
          rw [lift_map, read, strict]
          rfl
      | ok result =>
          obtain ⟨pairs, after⟩ := result
          rw [strict] at read
          have found : parseMembers fuel depth [] text = .ok (addMembers pairs [], after) :=
            lift_ok.1 read
          cases clash : rejectDuplicateKeys pairs with
          | error error =>
              unfold rejectDuplicateKeys at clash
              cases named : repeated [] pairs with
              | none =>
                  rw [named] at clash
                  cases clash
              | some key =>
                  rw [named] at clash
                  exact .inl ⟨key, by simp [Except.bind, Except.map, rejectDuplicateKeys, named]⟩
          | ok value =>
              obtain ⟨distinct, whole⟩ := reject_ok.1 clash
              apply Or.inr
              dsimp only [Except.bind]
              rw [clash, found, add_fresh pairs [] (by simpa using distinct), whole]
              rfl

/-- A text whose value is neither a string, an array nor an object. -/
def Scalar (text : List Char) : Prop :=
  ∀ rest, text ≠ '"' :: rest ∧ text ≠ '[' :: rest ∧ text ≠ '\x7b' :: rest

theorem strict_value_scalar {text : List Char} (scalar : Scalar text) (fuel depth : Nat) :
    hookedValue rejectDuplicateKeys (fuel + 1) depth text = lift (parseScalar text) := by
  unfold hookedValue
  split
  · exact absurd rfl (scalar _).1
  · exact absurd rfl (scalar _).2.1
  · exact absurd rfl (scalar _).2.2
  · rfl

theorem parse_value_scalar {text : List Char} (scalar : Scalar text) (fuel depth : Nat) :
    parseValue (fuel + 1) depth text = parseScalar text := by
  unfold parseValue
  split
  · exact absurd rfl (scalar _).1
  · exact absurd rfl (scalar _).2.1
  · exact absurd rfl (scalar _).2.2
  · rfl

/-- The first character decides what is read. -/
theorem starts_or_not (char : Char) (text : List Char) :
    (∃ rest, text = char :: rest) ∨ ∀ rest, text ≠ char :: rest := by
  by_cases starts : ∃ rest, text = char :: rest
  · exact .inl starts
  · exact .inr fun rest same => starts ⟨rest, same⟩

theorem text_cases (text : List Char) : (∃ rest, text = '"' :: rest) ∨
    (∃ rest, text = '[' :: rest) ∨ (∃ rest, text = '\x7b' :: rest) ∨ Scalar text := by
  rcases starts_or_not '"' text with quote | unquoted
  · exact .inl quote
  rcases starts_or_not '[' text with bracket | noArray
  · exact .inr (.inl bracket)
  rcases starts_or_not '\x7b' text with brace | noObject
  · exact .inr (.inr (.inl brace))
  · exact .inr (.inr (.inr fun rest => ⟨unquoted rest, noArray rest, noObject rest⟩))

/-- One member, when the readings of values and of further members agree. -/
theorem members_agree_step {fuel : Nat} (induction : ∀ depth text,
    Agrees (hookedValue rejectDuplicateKeys fuel depth text) (parseValue fuel depth text) ∧
      MembersAgree fuel depth text) (depth : Nat) (text : List Char) :
    MembersAgree (fuel + 1) depth text := by
  rcases starts_or_not '"' text with ⟨quoted, rfl⟩ | unquoted
  case inr =>
    apply members_agree_error .decode
    · rw [hookedMembers]
      exact unquoted
    · intro members
      rw [parseMembers]
      exact unquoted
  cases key : parseString (quoted.length + 1) quoted with
  | error error =>
      apply members_agree_error error
      · rw [hookedMembers, key]
      · intro members
        rw [parseMembers, key]
  | ok found =>
      obtain ⟨key, afterKey⟩ := found
      rcases starts_or_not ':' (skipWhite afterKey) with ⟨rest, colon⟩ | other
      case inr =>
        apply members_agree_error .decode
        · simp only [hookedMembers, key]
        · intro members
          simp only [parseMembers, key]
      rcases (induction depth (skipWhite rest)).1.cases with ⟨key', named⟩ |
        ⟨error, strict, plain⟩ | ⟨⟨value, afterValue⟩, strict, plain⟩
      · exact .inl ⟨key', by simp only [hookedMembers, key, colon, named]⟩
      · apply members_agree_error error
        · simp only [hookedMembers, key, colon, strict]
        · intro members
          simp only [parseMembers, key, colon, plain]
      rcases starts_or_not '\x7d' (skipWhite afterValue) with ⟨after, closed⟩ | unclosed
      · apply Or.inr
        intro members
        simp only [hookedMembers, parseMembers, key, colon, strict, plain, closed]
        rfl
      rcases starts_or_not ',' (skipWhite afterValue) with ⟨after, comma⟩ | separated
      · rcases (induction depth (skipWhite after)).2 with ⟨key', named⟩ | same
        · apply Or.inl
          exists key'
          simp only [hookedMembers, key, colon, strict, comma, named]
          rfl
        · apply Or.inr
          intro members
          simp only [hookedMembers, parseMembers, key, colon, strict, plain, comma, same]
          cases hookedMembers rejectDuplicateKeys fuel depth (skipWhite after) <;> rfl
      · apply members_agree_error .decode
        · simp only [hookedMembers, key, colon, strict]
        · intro members
          simp only [parseMembers, key, colon, plain]

theorem readings_agree (fuel : Nat) : ∀ depth text,
    Agrees (hookedValue rejectDuplicateKeys fuel depth text) (parseValue fuel depth text) ∧
      Agrees (hookedItems rejectDuplicateKeys fuel depth text) (parseItems fuel depth text) ∧
      MembersAgree fuel depth text := by
  induction fuel with
  | zero =>
      intro depth text
      exact ⟨Agrees.error _, Agrees.error _, members_agree_error .decode rfl fun _ => rfl⟩
  | succ fuel induction =>
      intro depth text
      refine ⟨?value, ?items, ?members⟩
      case value =>
        rcases text_cases text with ⟨rest, rfl⟩ | ⟨rest, rfl⟩ | ⟨rest, rfl⟩ | scalar
        · exact Agrees.lift _
        · cases depth with
          | zero => exact Agrees.error _
          | succ depth =>
              rcases starts_or_not ']' (skipWhite rest) with ⟨after, closed⟩ | unclosed
              · simp only [hookedValue, parseValue, closed]
                exact .inr rfl
              · simp only [hookedValue, parseValue]
                exact (induction depth _).2.1.map _
        · cases depth with
          | zero => exact Agrees.error _
          | succ depth =>
              rcases starts_or_not '\x7d' (skipWhite rest) with ⟨after, closed⟩ | unclosed
              · simp only [hookedValue, parseValue, closed]
                exact .inr rfl
              · simp only [hookedValue, parseValue]
                exact object_agrees (induction depth _).2.2
        · rw [strict_value_scalar scalar, parse_value_scalar scalar]
          exact Agrees.lift _
      case items =>
        unfold hookedItems parseItems
        rcases (induction depth text).1.cases with ⟨key, named⟩ | ⟨error, strict, plain⟩ |
          ⟨result, strict, plain⟩
        · exact .inl ⟨key, by rw [named]⟩
        · rw [strict, plain]
          exact Agrees.error error
        · rcases starts_or_not ']' (skipWhite result.2) with ⟨after, closed⟩ | unclosed
          · simp only [strict, plain, closed]
            exact .inr rfl
          rcases starts_or_not ',' (skipWhite result.2) with ⟨after, comma⟩ | separated
          · simp only [strict, plain, comma]
            exact (induction depth _).2.1.map _
          · simp only [strict, plain]
            exact Agrees.error _
      case members =>
        have both := fun depth text => And.intro (induction depth text).1 (induction depth text).2.2
        exact members_agree_step both depth text

/-- Either the hook refuses the text, or `json.loads` does just the same without it. -/
theorem strict_loads_agrees (limit : Nat) (text : String) :
    Agrees (strictLoads limit text) (loads limit text) := by
  have agree := (readings_agree (2 * text.toList.length + 2) limit (skipWhite text.toList)).1
  unfold strictLoads hookedLoads loads
  rcases agree.cases with ⟨key, named⟩ | ⟨error, strict, plain⟩ | ⟨result, strict, plain⟩
  · exact .inl ⟨key, by rw [named]⟩
  · rw [strict, plain]
    exact Agrees.error error
  · rw [strict, plain]
    dsimp only
    by_cases complete : (skipWhite result.2).isEmpty
    · rw [if_pos complete, if_pos complete]
      exact .inr rfl
    · rw [if_neg complete, if_neg complete]
      exact Agrees.error .decode

/-! ### No object of an accepted document repeats a key -/

mutual

/-- No object within the value has a key twice. -/
def Distinct : Json → Prop
  | .arr items => AllDistinct items
  | .obj members => (keys members).Nodup ∧ MembersDistinct members
  | _ => True

def AllDistinct : List Json → Prop
  | [] => True
  | item :: rest => Distinct item ∧ AllDistinct rest

def MembersDistinct : List (String × Json) → Prop
  | [] => True
  | member :: rest => Distinct member.2 ∧ MembersDistinct rest

end

mutual

def decideDistinct : (value : Json) → Decidable (Distinct value)
  | .arr items => decideAllDistinct items
  | .obj members => @instDecidableAnd _ _ inferInstance (decideMembersDistinct members)
  | .null | .bool _ | .int _ | .float _ | .nonFinite _ | .str _ => .isTrue trivial

def decideAllDistinct : (items : List Json) → Decidable (AllDistinct items)
  | [] => .isTrue trivial
  | item :: rest => @instDecidableAnd _ _ (decideDistinct item) (decideAllDistinct rest)

def decideMembersDistinct : (members : List (String × Json)) → Decidable (MembersDistinct members)
  | [] => .isTrue trivial
  | (_, value) :: rest =>
      @instDecidableAnd _ _ (decideDistinct value) (decideMembersDistinct rest)

end

instance : DecidablePred Distinct := decideDistinct

theorem scalar_distinct {text rest : List Char} {value : Json}
    (read : parseScalar text = .ok (value, rest)) : Distinct value := by
  have words : ∀ literal ∈ literals, Distinct literal.2 := by
    simp [literals, Distinct]
  unfold parseScalar at read
  split at read
  case h_1 word found same =>
    cases read
    exact words _ (List.mem_of_find?_eq_some same)
  case h_2 =>
    unfold parseNumber at read
    dsimp only at read
    split at read
    case h_1 => cases read
    case h_2 =>
      split at read
      · split at read <;> cases read
        trivial
      · repeat' split at read
        all_goals
          cases read
          trivial

theorem strict_reads_distinct (fuel : Nat) :
    (∀ depth text value rest,
      hookedValue rejectDuplicateKeys fuel depth text = .ok (value, rest) → Distinct value) ∧
    (∀ depth text items rest,
      hookedItems rejectDuplicateKeys fuel depth text = .ok (items, rest) → AllDistinct items) ∧
    ∀ depth text members rest,
      hookedMembers rejectDuplicateKeys fuel depth text = .ok (members, rest) →
        MembersDistinct members := by
  induction fuel with
  | zero =>
      refine ⟨?_, ?_, ?_⟩
      all_goals
        intro depth text found rest read
        cases read
  | succ fuel induction =>
      obtain ⟨values, items, members⟩ := induction
      refine ⟨?value, ?items, ?members⟩
      case value =>
        intro depth text value rest read
        rcases text_cases text with ⟨quoted, rfl⟩ | ⟨inner, rfl⟩ | ⟨inner, rfl⟩ | scalar
        · rw [hookedValue, lift_ok, except_map_ok] at read
          obtain ⟨found, -, same⟩ := read
          cases same
          trivial
        · cases depth with
          | zero => cases read
          | succ depth =>
              rw [hookedValue] at read
              split at read
              · cases read
                trivial
              · obtain ⟨found, inside, same⟩ := except_map_ok.1 read
                cases same
                exact items _ _ _ _ inside
        · cases depth with
          | zero => cases read
          | succ depth =>
              rw [hookedValue] at read
              split at read
              · cases read
                exact ⟨List.nodup_nil, trivial⟩
              · cases inside : hookedMembers rejectDuplicateKeys fuel depth (skipWhite inner) with
                | error error =>
                    rw [inside] at read
                    cases read
                | ok result =>
                    rw [inside] at read
                    obtain ⟨found, kept, same⟩ := except_map_ok.1 read
                    cases same
                    obtain ⟨distinct, whole⟩ := reject_ok.1 kept
                    rw [whole]
                    exact ⟨distinct, members _ _ _ _ inside⟩
        · rw [strict_value_scalar scalar, lift_ok] at read
          exact scalar_distinct read
      case items =>
        intro depth text found rest read
        rw [hookedItems] at read
        split at read
        case h_1 => cases read
        case h_2 item after first =>
          have head := values _ _ _ _ first
          split at read
          case h_1 =>
            cases read
            exact ⟨head, trivial⟩
          case h_2 =>
            obtain ⟨more, inside, same⟩ := except_map_ok.1 read
            cases same
            exact ⟨head, items _ _ _ _ inside⟩
          case h_3 => cases read
      case members =>
        intro depth text found rest read
        unfold hookedMembers at read
        split at read
        case h_2 => cases read
        case h_1 =>
          split at read
          case h_1 => cases read
          case h_2 =>
            split at read
            case h_2 => cases read
            case h_1 =>
              split at read
              case h_1 => cases read
              case h_2 value after first =>
                have head := values _ _ _ _ first
                split at read
                case h_1 =>
                  cases read
                  exact ⟨head, trivial⟩
                case h_2 =>
                  obtain ⟨more, inside, same⟩ := except_map_ok.1 read
                  cases same
                  exact ⟨head, members _ _ _ _ inside⟩
                case h_3 => cases read

theorem strict_loads_distinct {limit : Nat} {text : String} {value : Json}
    (read : strictLoads limit text = .ok value) : Distinct value := by
  unfold strictLoads hookedLoads at read
  split at read
  case h_1 => cases read
  case h_2 first =>
    split at read
    · cases read
      exact (strict_reads_distinct _).1 _ _ _ _ first
    · cases read

/-! ### Every document with a repeated key is refused -/

/-- The reading that keeps each member of each object, repeated or not. -/
def keptLoads (limit : Nat) (text : String) : Except StrictError Json :=
  hookedLoads (fun members => .ok (.obj members)) limit text

/-- The outcome names a repeated key, or it is the other one. -/
def Coincide {α : Type} (strict other : Except StrictError α) : Prop :=
  (∃ key, strict = .error (.duplicate key)) ∨ strict = other

theorem Coincide.map {α β : Type} {strict other : Except StrictError α}
    (coincide : Coincide strict other) (f : α → β) : Coincide (strict.map f) (other.map f) := by
  rcases coincide with ⟨key, named⟩ | same
  · exact .inl ⟨key, by rw [named]; rfl⟩
  · exact .inr (by rw [same])

theorem Coincide.bind {α β : Type} {strict other : Except StrictError α}
    {next after : α → Except StrictError β} (coincide : Coincide strict other)
    (later : ∀ value, Coincide (next value) (after value)) :
    Coincide (strict.bind next) (other.bind after) := by
  rcases coincide with ⟨key, named⟩ | rfl
  · exact .inl ⟨key, by rw [named]; rfl⟩
  · cases strict with
    | error error => exact .inr rfl
    | ok value => exact later value

theorem coincide_refl {α : Type} (outcome : Except StrictError α) : Coincide outcome outcome :=
  .inr rfl

section Hooks

variable {strict other : Hook}

/-- Where the hooks coincide, so do the readings: by recursion on the text, as they
are defined. -/
theorem hooks_coincide (hooks : ∀ members, Coincide (strict members) (other members))
    (fuel : Nat) : ∀ depth text,
    Coincide (hookedValue strict fuel depth text) (hookedValue other fuel depth text) ∧
      Coincide (hookedItems strict fuel depth text) (hookedItems other fuel depth text) ∧
      Coincide (hookedMembers strict fuel depth text) (hookedMembers other fuel depth text) := by
  induction fuel with
  | zero => exact fun _ _ => ⟨coincide_refl _, coincide_refl _, coincide_refl _⟩
  | succ fuel induction =>
      intro depth text
      refine ⟨?value, ?items, ?members⟩
      case value =>
        unfold hookedValue
        split
        · exact coincide_refl _
        · cases depth with
          | zero => exact coincide_refl _
          | succ depth =>
              dsimp only
              split
              · exact coincide_refl _
              · exact (induction depth _).2.1.map _
        · cases depth with
          | zero => exact coincide_refl _
          | succ depth =>
              dsimp only
              split
              · exact (hooks []).map _
              · exact (induction depth _).2.2.bind fun result => (hooks result.1).map _
        · exact coincide_refl _
      case items =>
        unfold hookedItems
        rcases (induction depth text).1 with ⟨key, named⟩ | same
        · exact .inl ⟨key, by rw [named]⟩
        · rw [same]
          split
          · exact coincide_refl _
          · split
            · exact coincide_refl _
            · exact (induction depth _).2.1.map _
            · exact coincide_refl _
      case members =>
        unfold hookedMembers
        split
        · split
          · exact coincide_refl _
          · split
            · rename_i rest _
              rcases (induction depth (skipWhite rest)).1 with ⟨key, named⟩ | same
              · exact .inl ⟨key, by rw [named]⟩
              · rw [same]
                split
                · exact coincide_refl _
                · split
                  · exact coincide_refl _
                  · exact (induction depth _).2.2.map _
                  · exact coincide_refl _
            · exact coincide_refl _
        · exact coincide_refl _

theorem loads_coincide (hooks : ∀ members, Coincide (strict members) (other members))
    (limit : Nat) (text : String) :
    Coincide (hookedLoads strict limit text) (hookedLoads other limit text) := by
  unfold hookedLoads
  rcases (hooks_coincide hooks (2 * text.toList.length + 2) limit (skipWhite text.toList)).1 with
    ⟨key, named⟩ | same
  · exact .inl ⟨key, by rw [named]⟩
  · exact .inr (by rw [same])

end Hooks

theorem reject_coincides (members : List (String × Json)) :
    Coincide (rejectDuplicateKeys members) (.ok (.obj members)) := by
  unfold rejectDuplicateKeys
  cases repeated [] members with
  | none => exact .inr rfl
  | some key => exact .inl ⟨key, rfl⟩

/-- A document with a repeated key is refused for one. -/
theorem strict_loads_repeated {limit : Nat} {text : String} {document : Json}
    (kept : keptLoads limit text = .ok document) (repeats : ¬Distinct document) :
    ∃ key, strictLoads limit text = .error (.duplicate key) := by
  rcases loads_coincide reject_coincides limit text with named | same
  · exact named
  · have read : strictLoads limit text = .ok document := same.trans kept
    exact absurd (strict_loads_distinct read) repeats

end OAuth2Server.StrictJson
