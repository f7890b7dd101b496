import OAuth2Server.TimestampText

/-!
# Whether the pages of a list partition it

Pages of one size are fetched one after the other, each by a query of its own with
a reading of the clock of its own. They partition the rows selected at the first
reading when the later readings select the same rows and, in SQL, when no
boundary between two pages falls among rows equal on the sort column.
-/

namespace OAuth2Server.PagePartition

open OAuth2Server Models Effects OrderedPages Listing

set_option autoImplicit false

/-- The pages have every selected row once, and each states their number. -/
structure Partitions {Row : Type} (selected : List Row) (pages : Nat → List Row × Nat)
    (count : Nat) : Prop where
  rows : (joined (fun index => (pages index).1) count).Perm selected
  totals : ∀ index < count, (pages index).2 = selected.length

section Selections

variable {Row : Type} {table : List Row} {keep : Nat → Row → Bool} {limit count : Nat}

/-- Of any two selections one is contained in the other. -/
def Nested (keep : Nat → Row → Bool) : Prop :=
  ∀ one other, (∀ row, keep one row = true → keep other row = true) ∨
    ∀ row, keep other row = true → keep one row = true

theorem filter_eq_of_length {one other : Row → Bool}
    (within : ∀ row, one row = true → other row = true)
    (same : (table.filter one).length = (table.filter other).length) :
    table.filter one = table.filter other :=
  (List.monotone_filter_right table within).eq_of_length same

/-- Nested selections of one size are one selection. -/
theorem selected_eq_of_totals (nested : Nested keep) {one other : Nat}
    (same : (table.filter (keep one)).length = (table.filter (keep other)).length) :
    table.filter (keep one) = table.filter (keep other) := by
  rcases nested one other with within | within
  · exact filter_eq_of_length within same
  · exact (filter_eq_of_length within same.symm).symm

variable (limit count) in
/-- Pages of the same rows in one order. -/
theorem sorted_partitions_iff (nested : Nested keep) (sort : List Row → List Row)
    (perm : ∀ rows, (sort rows).Perm rows)
    (enough : (table.filter (keep 0)).length ≤ count * limit) :
    Partitions (table.filter (keep 0)) (fun index =>
        (page limit (index * limit) (sort (table.filter (keep index))),
          (table.filter (keep index)).length)) count ↔
      ∀ index < count, table.filter (keep index) = table.filter (keep 0) := by
  constructor
  · intro partition index early
    exact selected_eq_of_totals nested (partition.totals index early)
  · intro same
    constructor
    · have pages : ∀ index < count,
          (page limit (index * limit) (sort (table.filter (keep index)))).Perm
            (page limit (index * limit) (sort (table.filter (keep 0)))) := by
        intro index early
        rw [same index early]
      apply (joined_perm pages).trans
      rw [joined_pages, List.take_of_length_le (by rw [(perm _).length_eq]; exact enough)]
      exact perm _
    · intro index early
      exact congrArg List.length (same index early)

variable (limit count) in
/-- Pages of the same rows in an order that is chosen for each. -/
theorem arranged_partitions_iff (nested : Nested keep) (ranking : Ranking Row)
    (distinct : table.Nodup) (positive : 0 < limit)
    (enough : (table.filter (keep 0)).length ≤ count * limit) :
    (∀ arranged : ∀ index, SqlStorage.Arranged ranking (table.filter (keep index)),
      Partitions (table.filter (keep 0)) (fun index =>
        (page limit (index * limit) (arranged index).ordered,
          (table.filter (keep index)).length)) count) ↔
      (∀ index < count, table.filter (keep index) = table.filter (keep 0)) ∧
        ∀ index, ¬ranking.Splits (table.filter (keep 0)) (index * limit) := by
  constructor
  · intro partition
    have same : ∀ index < count, table.filter (keep index) = table.filter (keep 0) := by
      intro index early
      have totals := (partition fun index => ⟨_, arranges_sort ranking _⟩).totals index early
      exact selected_eq_of_totals nested totals
    refine ⟨same, ?_⟩
    apply (pages_perm_iff (distinct.filter _) positive enough).1
    intro ordered arranges
    have chosen : ∀ index, ∃ arranged : SqlStorage.Arranged ranking (table.filter (keep index)),
        index < count → arranged.ordered = ordered index := by
      intro index
      by_cases early : index < count
      · exact ⟨⟨ordered index, by rw [same index early]; exact arranges index⟩, fun _ => rfl⟩
      · exact ⟨⟨_, arranges_sort ranking _⟩, fun other => absurd other early⟩
    choose arranged agrees using chosen
    have pages : ∀ index < count, (page limit (index * limit) (ordered index)).Perm
        (page limit (index * limit) (arranged index).ordered) := by
      intro index early
      rw [agrees index early]
    exact (joined_perm pages).trans (partition arranged).rows
  · intro ⟨same, clean⟩ arranged
    constructor
    · apply pages_perm _ clean enough
      intro index early
      rw [← same index early]
      exact (arranged index).arranges
    · intro index early
      exact congrArg List.length (same index early)

end Selections

/-! ### The listings -/

section Listings

variable {platform : Platform} {database : Database} {query : ListQuery} {limit count : Nat}

theorem paged_on_page {Row : Type} (most : limit ≤ 200) (index : Nat) {ranking : Ranking Row}
    (selected : List Row) (arranged : SqlStorage.Arranged ranking selected) :
    SqlStorage.paged (query.onPage limit index) selected arranged =
      (page limit (index * limit) arranged.ordered, selected.length) := by
  unfold SqlStorage.paged
  rw [on_page_limit query index most, on_page_offset]

theorem sort_and_page_on_page {Row : Type} (most : limit ≤ 200) (index : Nat)
    (cell : String → Row → Cell) (columns : List String) (listed : columns ≠ [])
    (items : List Row) :
    MongoStorage.sortAndPage (query.onPage limit index) cell columns listed items =
      (page limit (index * limit) (MongoStorage.sorted query cell columns listed items),
        items.length) := by
  unfold MongoStorage.sortAndPage
  rw [on_page_limit query index most, on_page_offset]
  rfl

theorem sorted_perm {Row : Type} (cell : String → Row → Cell) (columns : List String)
    (listed : columns ≠ []) (items : List Row) :
    (MongoStorage.sorted query cell columns listed items).Perm items := by
  unfold MongoStorage.sorted
  dsimp only
  split_ifs
  · exact List.mergeSort_perm _ _
  · exact List.mergeSort_perm _ _

theorem clients_on_page (most : limit ≤ 200) (index : Nat) (table : List Client)
    (arranged : SqlStorage.Arranged (SqlStorage.clientOrder database query)
      (table.filter (SqlStorage.clientsWhere platform database query))) :
    SqlStorage.listClientsPage platform database (query.onPage limit index) table arranged =
      (page limit (index * limit) arranged.ordered,
        (table.filter (SqlStorage.clientsWhere platform database query)).length) :=
  paged_on_page most index _ arranged

theorem users_on_page (most : limit ≤ 200) (index : Nat) (table : List User)
    (arranged : SqlStorage.Arranged (SqlStorage.userOrder database query)
      (table.filter (SqlStorage.usersWhere platform database query))) :
    SqlStorage.listUsersPage platform database (query.onPage limit index) table arranged =
      (page limit (index * limit) arranged.ordered,
        (table.filter (SqlStorage.usersWhere platform database query)).length) :=
  paged_on_page most index _ arranged

theorem tokens_on_page (most : limit ≤ 200) (index : Nat) (now : Instant) (table : List Token)
    (arranged : SqlStorage.Arranged (SqlStorage.tokenOrder database query)
      (table.filter (SqlStorage.tokensWhere platform database query now))) :
    SqlStorage.listTokensPage platform database (query.onPage limit index) now table arranged =
      (page limit (index * limit) arranged.ordered,
        (table.filter (SqlStorage.tokensWhere platform database query now)).length) :=
  paged_on_page most index _ arranged

/-- Pages of one list in one order partition it. -/
theorem mongo_partitions {Row : Type} (most : limit ≤ 200) (cell : String → Row → Cell)
    (columns : List String) (listed : columns ≠ []) {items : List Row}
    (enough : items.length ≤ count * limit) :
    Partitions items (fun index =>
      MongoStorage.sortAndPage (query.onPage limit index) cell columns listed items) count := by
  have every : items.filter (fun _ => true) = items := List.filter_true items
  have nested : Nested fun _ (_ : Row) => true := fun _ _ => .inl fun _ kept => kept
  have within : (items.filter fun _ => true).length ≤ count * limit := by
    rw [every]
    exact enough
  have partition := (sorted_partitions_iff limit count nested
    (MongoStorage.sorted query cell columns listed) (sorted_perm cell columns listed)
    within).2 fun _ _ => rfl
  simp only [sort_and_page_on_page most]
  rw [every] at partition
  exact partition

/-- A selection that reads no clock. -/
theorem nested_const {Row : Type} (keep : Row → Bool) : Nested fun _ : Nat => keep :=
  fun _ _ => .inl fun _ kept => kept

theorem tokens_live_mono {selects other : Instant → Bool}
    (within : ∀ stored, selects stored = true → other stored = true) (token : Token)
    (live : SqlStorage.tokensLive platform database query selects token = true) :
    SqlStorage.tokensLive platform database query other token = true := by
  unfold SqlStorage.tokensLive at live ⊢
  simp only [Bool.and_eq_true] at live ⊢
  exact ⟨live.1, live.2.1, within _ live.2.2⟩

theorem tokens_where_const (active : query.status ≠ some "active")
    (expired : query.status ≠ some "expired") (one other : Instant) :
    SqlStorage.tokensWhere platform database query one =
      SqlStorage.tokensWhere platform database query other := by
  funext token
  unfold SqlStorage.tokensWhere
  split
  · exact absurd ‹_› active
  · rfl
  · exact absurd ‹_› expired
  · rfl

theorem tokens_where_nested (now : Nat → Instant) :
    Nested fun index => SqlStorage.tokensWhere platform database query (now index) := by
  intro one other
  by_cases active : query.status = some "active"
  · simp only [SqlStorage.tokens_where_active active]
    rcases database.nested (now one) (now other) with within | within
    · exact .inl (tokens_live_mono within)
    · exact .inr (tokens_live_mono within)
  · by_cases expired : query.status = some "expired"
    · have flip : ∀ {early late : Instant}, (∀ stored, database.after stored early = true →
          database.after stored late = true) → ∀ stored, (!database.after stored late) = true →
            (!database.after stored early) = true := by
        intro early late within stored past
        cases live : database.after stored early with
        | false => rfl
        | true =>
            rw [within stored live] at past
            exact past
      simp only [SqlStorage.tokens_where_expired expired]
      rcases database.nested (now one) (now other) with within | within
      · exact .inr (tokens_live_mono (flip within))
      · exact .inl (tokens_live_mono (flip within))
    · dsimp only
      rw [tokens_where_const active expired (now one) (now other)]
      exact .inl fun _ kept => kept

/-- What a status keeps of the tokens. -/
def keepsStatus (query : ListQuery) (now : Instant) (token : Token) : Bool :=
  match query.status with
  | some "active" => !token.revoked && decide (now < token.expiresAt)
  | some "revoked" => token.revoked
  | some "expired" => !token.revoked && decide (token.expiresAt ≤ now)
  | _ => true

/-- What `MongoStorage` keeps of the tokens. -/
def keepsToken (platform : Platform) (query : ListQuery) (now : Instant) (token : Token) : Bool :=
  keepsStatus query now token && (MongoStorage.search platform query == "" ||
    (Text.contains (platform.lower token.clientId) (MongoStorage.search platform query) ||
      Text.contains (platform.lower (token.userId.getD "")) (MongoStorage.search platform query)))

theorem tokens_eq_filter (now : Instant) (documents : List Token) :
    MongoStorage.tokens platform query now documents =
      documents.filter (keepsToken platform query now) := by
  have status : MongoStorage.withStatus query now documents =
      documents.filter (keepsStatus query now) := by
    unfold MongoStorage.withStatus keepsStatus
    generalize query.status = status
    split
    · rfl
    · rfl
    · rfl
    · simp
  unfold MongoStorage.tokens keepsToken
  dsimp only
  rw [status]
  by_cases empty : MongoStorage.search platform query = ""
  · simp [empty]
  · have apart : (MongoStorage.search platform query == "") = false := by simpa using empty
    simp only [bne, apart, Bool.not_false, if_true, List.filter_filter, Bool.false_or,
      Bool.and_comm]

theorem keeps_status_nested (early late : Instant) (order : early ≤ late) :
    (∀ token, keepsStatus query early token = true → keepsStatus query late token = true) ∨
      ∀ token, keepsStatus query late token = true → keepsStatus query early token = true := by
  unfold keepsStatus
  split
  · right
    intro token kept
    simp only [Bool.and_eq_true, decide_eq_true_eq] at kept ⊢
    exact ⟨kept.1, lt_of_le_of_lt order kept.2⟩
  · exact .inl fun _ kept => kept
  · left
    intro token kept
    simp only [Bool.and_eq_true, decide_eq_true_eq] at kept ⊢
    exact ⟨kept.1, le_trans kept.2 order⟩
  · exact .inl fun _ kept => kept

theorem keeps_token_nested (now : Nat → Instant) :
    Nested fun index => keepsToken platform query (now index) := by
  intro one other
  have carried : ∀ {early late : Instant}, (∀ token, keepsStatus query early token = true →
      keepsStatus query late token = true) → ∀ token, keepsToken platform query early token = true →
        keepsToken platform query late token = true := by
    intro early late within token kept
    unfold keepsToken at kept ⊢
    rw [Bool.and_eq_true] at kept ⊢
    exact ⟨within token kept.1, kept.2⟩
  rcases le_total (now one) (now other) with order | order
  · exact (keeps_status_nested _ _ order).imp carried carried
  · exact (keeps_status_nested _ _ order).symm.imp carried carried

/-- The condition for the pages of a listing in SQL: every reading of the clock selects
the rows of the first, and no boundary falls among rows equal on the sort column. -/
def Clean {Row : Type} (ranking : Ranking Row) (selected : Nat → List Row) (limit count : Nat) :
    Prop :=
  (∀ index < count, selected index = selected 0) ∧
    ∀ index, ¬ranking.Splits (selected 0) (index * limit)

theorem pages_partition_iff (platform : Platform) (database : Database) (query : ListQuery)
    (limit count : Nat) (now : Nat → Instant) (least : 1 ≤ limit) (most : limit ≤ 200) :
    (∀ table : List Client, (table.map Client.id).Nodup →
      ((table.filter (SqlStorage.clientsWhere platform database query)).length ≤ count * limit →
        ((∀ arranged : Nat → SqlStorage.Arranged (SqlStorage.clientOrder database query)
            (table.filter (SqlStorage.clientsWhere platform database query)),
          Partitions (table.filter (SqlStorage.clientsWhere platform database query))
            (fun index => SqlStorage.listClientsPage platform database (query.onPage limit index)
              table (arranged index)) count) ↔
          Clean (SqlStorage.clientOrder database query)
            (fun _ => table.filter (SqlStorage.clientsWhere platform database query)) limit count)) ∧
      ((MongoStorage.clients platform query table).length ≤ count * limit →
        Partitions (MongoStorage.clients platform query table)
          (fun index => MongoStorage.listClientsPage platform (query.onPage limit index) table)
          count)) ∧
    (∀ table : List User, (table.map User.id).Nodup →
      ((table.filter (SqlStorage.usersWhere platform database query)).length ≤ count * limit →
        ((∀ arranged : Nat → SqlStorage.Arranged (SqlStorage.userOrder database query)
            (table.filter (SqlStorage.usersWhere platform database query)),
          Partitions (table.filter (SqlStorage.usersWhere platform database query))
            (fun index => SqlStorage.listUsersPage platform database (query.onPage limit index)
              table (arranged index)) count) ↔
          Clean (SqlStorage.userOrder database query)
            (fun _ => table.filter (SqlStorage.usersWhere platform database query)) limit count)) ∧
      ((MongoStorage.users platform query table).length ≤ count * limit →
        Partitions (MongoStorage.users platform query table)
          (fun index => MongoStorage.listUsersPage platform (query.onPage limit index) table)
          count)) ∧
    (∀ table : List Token, (table.map Token.id).Nodup →
      ((table.filter (SqlStorage.tokensWhere platform database query (now 0))).length ≤
          count * limit →
        ((∀ arranged : ∀ index, SqlStorage.Arranged (SqlStorage.tokenOrder database query)
            (table.filter (SqlStorage.tokensWhere platform database query (now index))),
          Partitions (table.filter (SqlStorage.tokensWhere platform database query (now 0)))
            (fun index => SqlStorage.listTokensPage platform database (query.onPage limit index)
              (now index) table (arranged index)) count) ↔
          Clean (SqlStorage.tokenOrder database query)
            (fun index => table.filter (SqlStorage.tokensWhere platform database query (now index)))
            limit count)) ∧
      ((MongoStorage.tokens platform query (now 0) table).length ≤ count * limit →
        (Partitions (MongoStorage.tokens platform query (now 0) table)
          (fun index => MongoStorage.listTokensPage platform (query.onPage limit index) (now index)
            table) count ↔
          ∀ index < count, MongoStorage.tokens platform query (now index) table =
            MongoStorage.tokens platform query (now 0) table))) := by
  refine ⟨?_, ?_, ?_⟩
  · intro table ids
    constructor
    · intro enough
      have partition := arranged_partitions_iff limit count
        (nested_const (SqlStorage.clientsWhere platform database query))
        (SqlStorage.clientOrder database query) (ids.of_map _) least enough
      simp only [clients_on_page most]
      exact partition
    · intro enough
      exact mongo_partitions most clientCell clientSortCols (by decide) enough
  · intro table ids
    constructor
    · intro enough
      have partition := arranged_partitions_iff limit count
        (nested_const (SqlStorage.usersWhere platform database query))
        (SqlStorage.userOrder database query) (ids.of_map _) least enough
      simp only [users_on_page most]
      exact partition
    · intro enough
      exact mongo_partitions most userCell userSortCols (by decide) enough
  · intro table ids
    constructor
    · intro enough
      have partition := arranged_partitions_iff limit count
        (@tokens_where_nested platform database query now)
        (SqlStorage.tokenOrder database query) (ids.of_map _) least enough
      simp only [tokens_on_page most]
      exact partition
    · intro enough
      rw [tokens_eq_filter] at enough ⊢
      have partition := sorted_partitions_iff limit count
        (@keeps_token_nested platform query now)
        (MongoStorage.sorted query tokenCell tokenSortCols (by decide))
        (sorted_perm tokenCell tokenSortCols (by decide)) enough
      have kept : ∀ index, MongoStorage.tokens platform (query.onPage limit index) (now index)
          table = table.filter (keepsToken platform query (now index)) :=
        fun index => @tokens_eq_filter platform query (now index) table
      simp only [MongoStorage.listTokensPage, sort_and_page_on_page most, kept, tokens_eq_filter]
      exact partition

end Listings

/-! ### Two clients of one time -/

def twin : Client := { Runs.sampleClient with id := "twin-row", clientId := "twin" }

theorem twins_found (client : Client) (member : client ∈ [Runs.sampleClient, twin]) :
    SqlStorage.clientsWhere Runs.samplePlatform TimestampText.sqlite {} client = true := by
  rcases List.mem_pair.1 member with same | same
  · rw [same]
    decide +kernel
  · rw [same]
    decide +kernel

theorem twins_selected : [Runs.sampleClient, twin].filter
    (SqlStorage.clientsWhere Runs.samplePlatform TimestampText.sqlite {}) =
      [Runs.sampleClient, twin] :=
  List.filter_eq_self.2 twins_found

theorem twins_tied (one other : Client) (first : one.createdAt = 0) (second : other.createdAt = 0) :
    (SqlStorage.clientOrder TimestampText.sqlite {}).le one other = true := by
  have column : whitelistCol none clientSortCols (by decide) = "created_at" := by decide
  have cell : ∀ client : Client, client.createdAt = 0 →
      clientCell "created_at" client = .instant 0 := by
    intro client created
    unfold clientCell
    rw [created]
    rfl
  unfold SqlStorage.clientOrder SqlStorage.order
  rw [column]
  change TimestampText.sqlite.order.le (clientCell "created_at" other)
    (clientCell "created_at" one) = true
  rw [cell one first, cell other second]
  exact TimestampText.sqlite.order.le_refl _

/-- The twins in an order a query may return them in. -/
def twinsArranged (one other : Client) (pair : [one, other].Perm [Runs.sampleClient, twin])
    (first : one.createdAt = 0) (second : other.createdAt = 0) :
    SqlStorage.Arranged (SqlStorage.clientOrder TimestampText.sqlite {})
      ([Runs.sampleClient, twin].filter
        (SqlStorage.clientsWhere Runs.samplePlatform TimestampText.sqlite {})) where
  ordered := [one, other]
  arranges :=
    { perm := by rw [twins_selected]; exact pair
      sorted := List.pairwise_pair.2 (twins_tied one other first second) }

/-- `MongoStorage` shows two clients created together on a page each. -/
theorem twins_partitioned :
    Partitions (MongoStorage.clients Runs.samplePlatform {} [Runs.sampleClient, twin])
      (fun index => MongoStorage.listClientsPage Runs.samplePlatform (ListQuery.onPage {} 1 index)
        [Runs.sampleClient, twin]) 2 :=
  ((pages_partition_iff Runs.samplePlatform TimestampText.sqlite {} 1 2 (fun _ => 0) (by decide)
    (by decide)).1 [Runs.sampleClient, twin] (by decide)).2 (by decide +kernel)

/-- Two pages of one client each show the same one, and the other on neither. -/
theorem twin_listed_twice :
    ¬∀ (platform : Platform) (database : Database) (query : ListQuery) (limit count : Nat),
      1 ≤ limit → limit ≤ 200 → ∀ table : List Client, (table.map Client.id).Nodup →
      (table.filter (SqlStorage.clientsWhere platform database query)).length ≤ count * limit →
      ∀ arranged : Nat → SqlStorage.Arranged (SqlStorage.clientOrder database query)
          (table.filter (SqlStorage.clientsWhere platform database query)),
        Partitions (table.filter (SqlStorage.clientsWhere platform database query))
          (fun index => SqlStorage.listClientsPage platform database (query.onPage limit index)
            table (arranged index)) count := by
  intro always
  have few : ([Runs.sampleClient, twin].filter
      (SqlStorage.clientsWhere Runs.samplePlatform TimestampText.sqlite {})).length ≤ 2 * 1 := by
    rw [twins_selected]
    decide
  have partition := always Runs.samplePlatform TimestampText.sqlite {} 1 2 (by decide) (by decide)
    [Runs.sampleClient, twin] (by decide) few fun index =>
      if index = 0 then twinsArranged Runs.sampleClient twin (List.Perm.refl _) rfl rfl
      else twinsArranged twin Runs.sampleClient (List.Perm.swap _ _ _) rfl rfl
  have rows := partition.rows
  simp only [clients_on_page (show 1 ≤ 200 by decide), twins_selected] at rows
  have member : twin ∈ joined (fun index => page 1 (index * 1)
      (if index = 0 then twinsArranged Runs.sampleClient twin (List.Perm.refl _) rfl rfl
        else twinsArranged twin Runs.sampleClient (List.Perm.swap _ _ _) rfl rfl).ordered) 2 :=
    rows.mem_iff.2 (by simp)
  rw [joined_succ, joined_succ] at member
  have same : twin = Runs.sampleClient := by
    simpa [joined, page, twinsArranged] using member
  exact absurd same (by decide)

end OAuth2Server.PagePartition
