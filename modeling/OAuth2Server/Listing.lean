import OAuth2Server.Effects
import OAuth2Server.LikePatterns
import OAuth2Server.Migrations
import OAuth2Server.OrderedPages

/-!
# The pages of the admin lists

`list_clients_page`, `list_users_page` and `list_tokens_page` of both backends.
`SqlStorage` counts and pages in the database, whose `LOWER`, column order and
timestamp comparison are parameters, and which arranges rows equal on the
sort column anew for each query. `MongoStorage` filters and sorts the documents
itself.
-/

namespace OAuth2Server.Listing

open OAuth2Server Models Effects OrderedPages

set_option autoImplicit false

/-! ### `paging.py` -/

structure ListQuery where
  limit : Option Int := none
  /-- `__post_init__` leaves no negative offset. -/
  offset : Nat := 0
  sortBy : Option String := none
  sortDir : String := "desc"
  search : Option String := none
  status : Option String := none
  deriving DecidableEq

/-- `max(offset, 0)`. -/
def clampedOffset (offset : Int) : Nat := (max offset 0).toNat

def defaultLimit : Int := 25

def maxLimit : Int := 200

def ListQuery.effectiveLimit (query : ListQuery) : Int :=
  let limit := query.limit.getD defaultLimit
  let limit := if limit < 0 then defaultLimit else limit
  min limit maxLimit

def whitelistCol (requested : Option String) (allowed : List String) (listed : allowed ≠ []) :
    String :=
  match requested with
  | some column => if allowed.contains column then column else allowed.getLast listed
  | none => allowed.getLast listed

/-- The query for one of the pages of a size. -/
def ListQuery.onPage (query : ListQuery) (limit index : Nat) : ListQuery :=
  { query with limit := some limit, offset := clampedOffset (index * limit) }

theorem on_page_offset (query : ListQuery) (limit index : Nat) :
    (query.onPage limit index).offset = index * limit := by
  simp [ListQuery.onPage, clampedOffset]
  omega

theorem on_page_limit (query : ListQuery) {limit : Nat} (index : Nat) (most : limit ≤ 200) :
    (query.onPage limit index).effectiveLimit.toNat = limit := by
  have nonnegative : ¬(limit : Int) < 0 := by omega
  simp only [ListQuery.onPage, ListQuery.effectiveLimit, Option.getD_some, nonnegative, if_false,
    maxLimit]
  omega

/-! ### Rows and columns -/

/-- The value of a sort column. -/
inductive Cell where
  | null
  | text (value : String)
  | instant (value : Instant)
  deriving DecidableEq

def clientSortCols : List String := ["name", "client_id", "created_at"]

def userSortCols : List String := ["username", "email", "role", "created_at"]

def tokenSortCols : List String := ["client_id", "user_id", "scope", "expires_at", "created_at"]

def clientCell (column : String) (client : Client) : Cell :=
  if column == "name" then .text client.name
  else if column == "client_id" then .text client.clientId
  else .instant client.createdAt

def userCell (column : String) (user : User) : Cell :=
  if column == "username" then .text user.username
  else if column == "email" then .text user.email
  else if column == "role" then .text user.role
  else .instant user.createdAt

def tokenCell (column : String) (token : Token) : Cell :=
  if column == "client_id" then .text token.clientId
  else if column == "user_id" then
    match token.userId with
    | some userId => .text userId
    | none => .null
  else if column == "scope" then .text token.scope
  else if column == "expires_at" then .instant token.expiresAt
  else .instant token.createdAt

/-! ### `SqlStorage` -/

/-- What the database decides: `LOWER`, the order of a column's values, and
whether a stored timestamp is greater than a bound one. -/
structure Database where
  lower : String → String
  order : Ranking Cell
  after : Instant → Instant → Bool
  nested : ∀ one other : Instant, (∀ stored, after stored one = true → after stored other = true) ∨
    ∀ stored, after stored other = true → after stored one = true

namespace SqlStorage

variable (platform : Platform) (database : Database) (query : ListQuery)

/-- `_escape_like`. -/
def escapeLike (value : String) : String :=
  Migrations.replace (Migrations.replace (Migrations.replace value "\\" "\\\\") "%" "\\%") "_" "\\_"

def marks : LikePatterns.Marks Char where
  run := '%'
  one := '_'
  escape := '\\'
  apart := by decide

/-- `text LIKE pattern ESCAPE '\'`. -/
def like (text pattern : String) : Bool := LikePatterns.like marks text.toList pattern.toList

def pattern : String := "%" ++ escapeLike (platform.lower (query.search.getD "")) ++ "%"

/-- `ORDER BY col ASC|DESC`. -/
def order {Row : Type} (cell : String → Row → Cell) (columns : List String)
    (listed : columns ≠ []) : Ranking Row :=
  let ranking := database.order.on (cell (whitelistCol query.sortBy columns listed))
  if query.sortDir == "asc" then ranking else ranking.reverse

/-- The order one query returns the selected rows in. -/
structure Arranged {Row : Type} (ranking : Ranking Row) (rows : List Row) where
  ordered : List Row
  arranges : ranking.Arranges rows ordered

/-- The rows of `LIMIT :limit OFFSET :offset`, and the count of the selected ones. -/
def paged {Row : Type} {ranking : Ranking Row} (selected : List Row)
    (arranged : Arranged ranking selected) : List Row × Nat :=
  (page query.effectiveLimit.toNat query.offset arranged.ordered, selected.length)

def clientsWhere (client : Client) : Bool :=
  like (database.lower client.name) (pattern platform query) ||
    like (database.lower client.clientId) (pattern platform query)

def usersWhere (user : User) : Bool :=
  like (database.lower user.username) (pattern platform query) ||
    like (database.lower user.email) (pattern platform query)

def tokensSearch (token : Token) : Bool :=
  like (database.lower token.clientId) (pattern platform query) ||
    like (database.lower (token.userId.getD "")) (pattern platform query)

/-- The clauses of a token listing at a reading of the clock. -/
def tokensWhere (now : Instant) (token : Token) : Bool :=
  tokensSearch platform database query token &&
  match query.status with
  | some "active" => token.revoked == false && database.after token.expiresAt now
  | some "revoked" => token.revoked == true
  | some "expired" => token.revoked == false && !database.after token.expiresAt now
  | _ => true

/-- The clauses of a status that compares the expiry. -/
def tokensLive (current : Instant → Bool) (token : Token) : Bool :=
  tokensSearch platform database query token && (!token.revoked && current token.expiresAt)

variable {platform database query}

theorem tokens_where_active (active : query.status = some "active") (now : Instant) :
    tokensWhere platform database query now =
      tokensLive platform database query fun stored => database.after stored now := by
  funext token
  unfold tokensWhere tokensLive
  rw [active]
  cases token.revoked <;> rfl

theorem tokens_where_expired (expired : query.status = some "expired") (now : Instant) :
    tokensWhere platform database query now =
      tokensLive platform database query fun stored => !database.after stored now := by
  funext token
  unfold tokensWhere tokensLive
  rw [expired]
  cases token.revoked <;> rfl

variable (platform database query)

def clientOrder : Ranking Client := order database query clientCell clientSortCols (by decide)

def userOrder : Ranking User := order database query userCell userSortCols (by decide)

def tokenOrder : Ranking Token := order database query tokenCell tokenSortCols (by decide)

def listClientsPage (table : List Client) (arranged : Arranged (clientOrder database query)
    (table.filter (clientsWhere platform database query))) : List Client × Nat :=
  paged query _ arranged

def listUsersPage (table : List User) (arranged : Arranged (userOrder database query)
    (table.filter (usersWhere platform database query))) : List User × Nat :=
  paged query _ arranged

def listTokensPage (now : Instant) (table : List Token)
    (arranged : Arranged (tokenOrder database query)
      (table.filter (tokensWhere platform database query now))) : List Token × Nat :=
  paged query _ arranged

end SqlStorage

/-! ### `MongoStorage` -/

namespace MongoStorage

variable (platform : Platform) (query : ListQuery)

/-- `_sort_key`. -/
def sortKey : Cell → Cell
  | .null => .text ""
  | cell => cell

/-- Python's `<=` on the keys of one column, which are all texts or all datetimes. -/
def keyLe : Cell → Cell → Bool
  | .text left, .text right => left ≤ right
  | .instant left, .instant right => left ≤ right
  | _, _ => false

/-- `items.sort(key, reverse)`: a stable sort, also in reverse. -/
def sorted {Row : Type} (cell : String → Row → Cell) (columns : List String)
    (listed : columns ≠ []) (items : List Row) : List Row :=
  let key := fun row => sortKey (cell (whitelistCol query.sortBy columns listed) row)
  if query.sortDir != "asc" then items.mergeSort fun left right => keyLe (key right) (key left)
  else items.mergeSort fun left right => keyLe (key left) (key right)

/-- `_sort_and_page`. -/
def sortAndPage {Row : Type} (cell : String → Row → Cell) (columns : List String)
    (listed : columns ≠ []) (items : List Row) : List Row × Nat :=
  (page query.effectiveLimit.toNat query.offset (sorted query cell columns listed items),
    items.length)

def search : String := platform.lower (query.search.getD "")

def clients (documents : List Client) : List Client :=
  if search platform query != "" then
    documents.filter fun client =>
      Text.contains (platform.lower client.name) (search platform query) ||
        Text.contains (platform.lower client.clientId) (search platform query)
  else documents

def users (documents : List User) : List User :=
  if search platform query != "" then
    documents.filter fun user =>
      Text.contains (platform.lower user.username) (search platform query) ||
        Text.contains (platform.lower user.email) (search platform query)
  else documents

def withStatus (now : Instant) (documents : List Token) : List Token :=
  match query.status with
  | some "active" => documents.filter fun token => !token.revoked && decide (now < token.expiresAt)
  | some "revoked" => documents.filter fun token => token.revoked
  | some "expired" => documents.filter fun token => !token.revoked && decide (token.expiresAt ≤ now)
  | _ => documents

def tokens (now : Instant) (documents : List Token) : List Token :=
  let items := withStatus query now documents
  if search platform query != "" then
    items.filter fun token =>
      Text.contains (platform.lower token.clientId) (search platform query) ||
        Text.contains (platform.lower (token.userId.getD "")) (search platform query)
  else items

def listClientsPage (documents : List Client) : List Client × Nat :=
  sortAndPage query clientCell clientSortCols (by decide) (clients platform query documents)

def listUsersPage (documents : List User) : List User × Nat :=
  sortAndPage query userCell userSortCols (by decide) (users platform query documents)

def listTokensPage (now : Instant) (documents : List Token) : List Token × Nat :=
  sortAndPage query tokenCell tokenSortCols (by decide) (tokens platform query now documents)

end MongoStorage

end OAuth2Server.Listing
