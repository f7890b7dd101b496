import OAuth2Server.TimestampText

/-!
# What a search of the admin lists finds

`_escape_like` makes every mark of the pattern language literal, so that the
pattern matches the texts that contain the search. `MongoStorage` tests the same
with `in`, and lists everything for an empty search.
-/

namespace OAuth2Server.SearchAgreement

open OAuth2Server Models Effects Listing

set_option autoImplicit false

/-! ### Lower case -/

/-- A text of ASCII characters. -/
def Ascii (text : String) : Prop := ∀ char ∈ text.toList, char.toNat < 128

/-- `lower` on ASCII texts: the letters A to Z. -/
structure FoldsAscii (lower : String → String) : Prop where
  ascii : ∀ text, Ascii text → lower text = Text.lower text

/-- A search is a substring of a field, both in lower case. -/
def found (search : String) (fields : List String) : Bool :=
  fields.any fun field => decide ((Text.lower search).toList <:+: (Text.lower field).toList)

/-! ### Substrings and patterns -/

theorem contains_iff (text needle : String) :
    Text.contains text needle = true ↔ needle.toList <:+: text.toList := by
  unfold Text.contains
  rw [List.any_eq_true]
  simp only [List.mem_tails, List.isPrefixOf_iff_prefix]
  constructor
  · intro ⟨suffix, tail, head⟩
    exact head.isInfix.trans tail.isInfix
  · intro ⟨before, after, same⟩
    refine ⟨needle.toList ++ after, ⟨before, ?_⟩, List.prefix_append _ _⟩
    rw [← same, List.append_assoc]

theorem replace_char (old : Char) (new text : List Char) :
    Migrations.replaceFrom [old] new 0 text =
      text.flatMap fun char => if char = old then new else [char] := by
  induction text with
  | nil => rfl
  | cons char text induction =>
      unfold Migrations.replaceFrom
      rw [List.flatMap_cons]
      by_cases same : char = old
      · have starts : [old].isPrefixOf (char :: text) = true := by simp [same]
        rw [if_pos starts, if_pos same, List.length_singleton, Nat.sub_self, induction]
      · have apart : (old == char) = false := by simpa using Ne.symm same
        have other : [old].isPrefixOf (char :: text) = false := by
          rw [List.isPrefixOf_cons_cons, apart, Bool.false_and]
        rw [other, if_neg Bool.false_ne_true, if_neg same, induction, List.singleton_append]

/-- Three replacements, the escape's first, make each mark literal once. -/
theorem escape_like_chars (value : String) :
    (SqlStorage.escapeLike value).toList = LikePatterns.escaped SqlStorage.marks value.toList := by
  unfold SqlStorage.escapeLike Migrations.replace LikePatterns.escaped
  have backslash : ("\\" : String).toList = ['\\'] := rfl
  have percent : ("%" : String).toList = ['%'] := rfl
  have underscore : ("_" : String).toList = ['_'] := rfl
  simp only [String.toList_ofList, backslash, percent, underscore, replace_char,
    List.flatMap_assoc]
  congr 1
  funext char
  unfold LikePatterns.escapedChar SqlStorage.marks
  by_cases escape : char = '\\'
  · rw [escape]
    decide
  · by_cases run : char = '%'
    · rw [run]
      decide
    · by_cases one : char = '_'
      · rw [one]
        decide
      · simp [escape, run, one]

theorem like_pattern_iff (platform : Platform) (query : ListQuery) (text : String) :
    SqlStorage.like text (SqlStorage.pattern platform query) = true ↔
      (platform.lower (query.search.getD "")).toList <:+: text.toList := by
  unfold SqlStorage.like SqlStorage.pattern
  rw [String.toList_append, String.toList_append, escape_like_chars, List.append_assoc]
  exact LikePatterns.like_contains

/-! ### What the backends find -/

section Backends

variable {platform : Platform} {database : Database} {query : ListQuery}

/-- The two LIKE clauses of a listing. -/
theorem pattern_found (python : FoldsAscii platform.lower) (sql : FoldsAscii database.lower)
    (ascii : Ascii (query.search.getD "")) {one other : String} (first : Ascii one)
    (second : Ascii other) :
    (SqlStorage.like (database.lower one) (SqlStorage.pattern platform query) ||
      SqlStorage.like (database.lower other) (SqlStorage.pattern platform query)) =
        found (query.search.getD "") [one, other] := by
  rw [Bool.eq_iff_iff, Bool.or_eq_true, like_pattern_iff, like_pattern_iff, python.ascii _ ascii,
    sql.ascii _ first, sql.ascii _ second]
  simp [found]

/-- The two substring tests of a listing. -/
theorem contains_found (python : FoldsAscii platform.lower)
    (ascii : Ascii (query.search.getD "")) {one other : String} (first : Ascii one)
    (second : Ascii other) :
    (Text.contains (platform.lower one) (MongoStorage.search platform query) ||
      Text.contains (platform.lower other) (MongoStorage.search platform query)) =
        found (query.search.getD "") [one, other] := by
  unfold MongoStorage.search
  rw [Bool.eq_iff_iff, Bool.or_eq_true, contains_iff, contains_iff, python.ascii _ ascii,
    python.ascii _ first, python.ascii _ second]
  simp [found]

/-- An empty search is found in every field. -/
theorem empty_found (python : FoldsAscii platform.lower) (ascii : Ascii (query.search.getD ""))
    (empty : MongoStorage.search platform query = "") (one other : String) :
    found (query.search.getD "") [one, other] = true := by
  unfold MongoStorage.search at empty
  rw [python.ascii _ ascii] at empty
  simp [found, empty]

/-- The rows of a search that is made only where it is not empty. -/
theorem mongo_rows {Row : Type} (python : FoldsAscii platform.lower)
    (ascii : Ascii (query.search.getD "")) {items : List Row} (one other : Row → String)
    (fields : ∀ row ∈ items, Ascii (one row) ∧ Ascii (other row)) :
    (if MongoStorage.search platform query != "" then
      items.filter fun row =>
        Text.contains (platform.lower (one row)) (MongoStorage.search platform query) ||
          Text.contains (platform.lower (other row)) (MongoStorage.search platform query)
    else items) =
      items.filter fun row => found (query.search.getD "") [one row, other row] := by
  by_cases empty : MongoStorage.search platform query = ""
  · rw [empty, bne_self_eq_false, if_neg Bool.false_ne_true]
    symm
    apply List.filter_eq_self.2
    intro row _
    exact empty_found python ascii empty _ _
  · rw [if_pos (bne_iff_ne.2 empty)]
    apply List.filter_congr
    intro row member
    exact contains_found python ascii (fields row member).1 (fields row member).2

/-- Both backends list the rows with the search in one of two fields. -/
theorem search_agrees (python : FoldsAscii platform.lower) (sql : FoldsAscii database.lower)
    (ascii : Ascii (query.search.getD "")) :
    (∀ (table : List Client) (arranged : SqlStorage.Arranged _ _),
      (∀ client ∈ table, Ascii client.name ∧ Ascii client.clientId) →
      table.filter (SqlStorage.clientsWhere platform database query) =
          table.filter (fun client =>
            found (query.search.getD "") [client.name, client.clientId]) ∧
        (SqlStorage.listClientsPage platform database query table arranged).2 =
          table.countP (fun client =>
            found (query.search.getD "") [client.name, client.clientId]) ∧
        MongoStorage.clients platform query table =
          table.filter (SqlStorage.clientsWhere platform database query)) ∧
    (∀ (table : List User) (arranged : SqlStorage.Arranged _ _),
      (∀ user ∈ table, Ascii user.username ∧ Ascii user.email) →
      table.filter (SqlStorage.usersWhere platform database query) =
          table.filter (fun user => found (query.search.getD "") [user.username, user.email]) ∧
        (SqlStorage.listUsersPage platform database query table arranged).2 =
          table.countP (fun user => found (query.search.getD "") [user.username, user.email]) ∧
        MongoStorage.users platform query table =
          table.filter (SqlStorage.usersWhere platform database query)) ∧
    (query.status = none → ∀ (now : Instant) (table : List Token)
      (arranged : SqlStorage.Arranged _ _),
      (∀ token ∈ table, Ascii token.clientId ∧ Ascii (token.userId.getD "")) →
      table.filter (SqlStorage.tokensWhere platform database query now) =
          table.filter (fun token =>
            found (query.search.getD "") [token.clientId, token.userId.getD ""]) ∧
        (SqlStorage.listTokensPage platform database query now table arranged).2 =
          table.countP (fun token =>
            found (query.search.getD "") [token.clientId, token.userId.getD ""]) ∧
        MongoStorage.tokens platform query now table =
          table.filter (SqlStorage.tokensWhere platform database query now)) := by
  refine ⟨?_, ?_, ?_⟩
  · intro table arranged fields
    have rows : table.filter (SqlStorage.clientsWhere platform database query) =
        table.filter fun client =>
          found (query.search.getD "") [client.name, client.clientId] := by
      apply List.filter_congr
      intro client member
      exact pattern_found python sql ascii (fields client member).1 (fields client member).2
    refine ⟨rows, ?_, ?_⟩
    · rw [List.countP_eq_length_filter, ← rows]
      rfl
    · rw [rows]
      exact mongo_rows python ascii Client.name Client.clientId fields
  · intro table arranged fields
    have rows : table.filter (SqlStorage.usersWhere platform database query) =
        table.filter fun user => found (query.search.getD "") [user.username, user.email] := by
      apply List.filter_congr
      intro user member
      exact pattern_found python sql ascii (fields user member).1 (fields user member).2
    refine ⟨rows, ?_, ?_⟩
    · rw [List.countP_eq_length_filter, ← rows]
      rfl
    · rw [rows]
      exact mongo_rows python ascii User.username User.email fields
  · intro unfiltered now table arranged fields
    have rows : table.filter (SqlStorage.tokensWhere platform database query now) =
        table.filter fun token =>
          found (query.search.getD "") [token.clientId, token.userId.getD ""] := by
      apply List.filter_congr
      intro token member
      unfold SqlStorage.tokensWhere
      rw [unfiltered, Bool.and_true]
      exact pattern_found python sql ascii (fields token member).1 (fields token member).2
    refine ⟨rows, ?_, ?_⟩
    · rw [List.countP_eq_length_filter, ← rows]
      rfl
    · have every : MongoStorage.withStatus query now table = table := by
        unfold MongoStorage.withStatus
        rw [unfiltered]
      unfold MongoStorage.tokens
      rw [rows, every]
      exact mongo_rows python ascii Token.clientId (fun token => token.userId.getD "") fields

end Backends

/-- A search for `0%` counts the one name that contains it. -/
theorem percent_search_counts :
    (SqlStorage.listClientsPage Runs.samplePlatform TimestampText.sqlite { search := some "0%" }
      [{ Runs.sampleClient with name := "100% App" }, { Runs.sampleClient with name := "10 App" }]
      ⟨_, OrderedPages.arranges_sort _ _⟩).2 = 1 := by
  have folds : FoldsAscii Text.lower := ⟨fun _ _ => rfl⟩
  have counts := (@search_agrees Runs.samplePlatform TimestampText.sqlite { search := some "0%" } folds folds
    (by unfold Ascii; decide)).1
    [{ Runs.sampleClient with name := "100% App" }, { Runs.sampleClient with name := "10 App" }]
    ⟨_, OrderedPages.arranges_sort _ _⟩
  have ascii : ∀ client ∈ [{ Runs.sampleClient with name := "100% App" },
      { Runs.sampleClient with name := "10 App" }],
      Ascii client.name ∧ Ascii client.clientId := by
    unfold Ascii
    decide
  rw [(counts ascii).2.1]
  decide +kernel

end OAuth2Server.SearchAgreement
