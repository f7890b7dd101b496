import Mathlib.Data.String.Basic
import Mathlib.Order.WithBot
import OAuth2Server.Calendar
import OAuth2Server.FixedDigits
import OAuth2Server.Listing
import OAuth2Server.Runs

/-!
# Timestamps as SQLite stores and compares them

`save_token` stores a datetime in pydantic's JSON form, with a `Z`; `_dt` binds
the present time in `isoformat`'s, with `+00:00`. Both leave out a zero fraction.
SQLite compares the characters.
-/

namespace OAuth2Server.TimestampText

open OAuth2Server Models Calendar FixedDigits OrderedPages Listing

set_option autoImplicit false

/-! ### The texts -/

/-- From the first of January of year one to the epoch. -/
def epochMicros : Int := 719162 * 86400000000

def sinceYearOne (instant : Instant) : Int := epochMicros + instant

/-- The instants of a `datetime`, in the years from 1 to 9999. -/
def Datetime (instant : Instant) : Prop :=
  0 ≤ sinceYearOne instant ∧ sinceYearOne instant < 3652059 * 86400000000

instance (instant : Instant) : Decidable (Datetime instant) :=
  inferInstanceAs (Decidable (_ ∧ _))

def secondOf (instant : Instant) : Nat := (sinceYearOne instant).toNat / 1000000

def microsecond (instant : Instant) : Nat := (sinceYearOne instant).toNat % 1000000

def dateText (date : Date) : List Char :=
  padded 4 date.year ++ '-' :: (padded 2 date.month ++ '-' :: padded 2 date.day)

def timeText (second : Nat) : List Char :=
  padded 2 (second / 3600 % 24) ++ ':' :: (padded 2 (second / 60 % 60) ++
    ':' :: padded 2 (second % 60))

def secondText (second : Nat) : List Char :=
  dateText (.ofNumber (second / 86400)) ++ 'T' :: timeText second

def fractionText (micro : Nat) : List Char := if micro = 0 then [] else '.' :: padded 6 micro

/-- pydantic's JSON form of a UTC datetime. -/
def storedText (instant : Instant) : String :=
  String.ofList (secondText (secondOf instant) ++ (fractionText (microsecond instant) ++ ['Z']))

/-- `isoformat()` of a UTC datetime. -/
def boundText (instant : Instant) : String :=
  String.ofList (secondText (secondOf instant) ++
    (fractionText (microsecond instant) ++ ['+', '0', '0', ':', '0', '0']))

/-! ### The order of the texts -/

theorem since_of_parts {instant : Instant} (datetime : Datetime instant) :
    sinceYearOne instant = (secondOf instant : Int) * 1000000 + microsecond instant := by
  unfold Datetime at datetime
  unfold secondOf microsecond
  omega

theorem second_lt {instant : Instant} (datetime : Datetime instant) :
    secondOf instant < 3652059 * 86400 := by
  unfold Datetime at datetime
  unfold secondOf
  omega

theorem microsecond_lt (instant : Instant) : microsecond instant < 1000000 :=
  Nat.mod_lt _ (by omega)

theorem date_fields (one other : Nat) :
    ((Date.ofNumber one).year = (Date.ofNumber other).year ∧
      (Date.ofNumber one).month = (Date.ofNumber other).month ∧
      (Date.ofNumber one).day = (Date.ofNumber other).day) ↔ one = other := by
  constructor
  · intro ⟨year, month, day⟩
    rw [← Date.number_of_number one, ← Date.number_of_number other]
    unfold Date.number
    rw [year, month, day]
  · intro same
    rw [same]
    exact ⟨rfl, rfl, rfl⟩

theorem date_bounds {number : Nat} (small : number < 3652059) :
    (Date.ofNumber number).year < 10 ^ 4 ∧ (Date.ofNumber number).month < 10 ^ 2 ∧
      (Date.ofNumber number).day < 10 ^ 2 := by
  have month := (Date.ofNumber number).month_le
  have day := (Date.ofNumber number).day_le
  have days := days_in_month_le (isLeap (Date.ofNumber number).year) (Date.ofNumber number).month
  refine ⟨Date.year_lt (by omega) small, by omega, by omega⟩

theorem date_text_lt {one other : Nat} (first : one < 3652059) (second : other < 3652059)
    {after rest : List Char} :
    dateText (.ofNumber one) ++ after < dateText (.ofNumber other) ++ rest ↔
      one < other ∨ one = other ∧ after < rest := by
  obtain ⟨year, month, day⟩ := date_bounds first
  obtain ⟨year', month', day'⟩ := date_bounds second
  unfold dateText
  rw [← Date.before_iff, ← date_fields]
  unfold Date.Before
  simp only [List.append_assoc, List.cons_append, padded_append_lt year year',
    padded_append_lt month month', padded_append_lt day day', List.cons_lt_cons_iff, Char.lt_irrefl,
    false_or, true_and, and_or_left, or_assoc, and_assoc]

theorem time_text_lt {one other : Nat} {after rest : List Char} :
    timeText one ++ after < timeText other ++ rest ↔
      one % 86400 < other % 86400 ∨ one % 86400 = other % 86400 ∧ after < rest := by
  have hours : ∀ second, second / 3600 % 24 < 10 ^ 2 := fun second => by omega
  have minutes : ∀ second, second / 60 % 60 < 10 ^ 2 := fun second => by omega
  have seconds : ∀ second, second % 60 < 10 ^ 2 := fun second => by omega
  unfold timeText
  simp only [List.append_assoc, List.cons_append, padded_append_lt (hours _) (hours _),
    padded_append_lt (minutes _) (minutes _), padded_append_lt (seconds _) (seconds _),
    List.cons_lt_cons_iff, Char.lt_irrefl, false_or, true_and]
  by_cases less : after < rest
  · simp only [less, and_true]
    omega
  · simp only [less, and_false, or_false]
    omega

/-- What follows the text of a second decides only within the second. -/
theorem second_text_lt {one other : Nat} (first : one < 3652059 * 86400)
    (second : other < 3652059 * 86400) {after rest : List Char} :
    secondText one ++ after < secondText other ++ rest ↔
      one < other ∨ one = other ∧ after < rest := by
  unfold secondText
  rw [List.append_assoc, List.append_assoc,
    date_text_lt (show one / 86400 < 3652059 by omega) (by omega), List.cons_append, List.cons_append,
    List.cons_lt_cons_iff, time_text_lt, lt_iff_div_mod one _ 86400,
    eq_iff_div_mod one _ 86400]
  simp only [Char.lt_irrefl, false_or, true_and, and_or_left, or_assoc, and_assoc]

theorem fraction_lt {one other : Nat} (first : one < 1000000) (second : other < 1000000) :
    fractionText one ++ ['+', '0', '0', ':', '0', '0'] < fractionText other ++ ['Z'] ↔
      other = 0 ∨ one ≤ other := by
  have offset : ('+' : Char) < '.' := by decide
  have suffix : ('+' : Char) < 'Z' := by decide
  have point : ('.' : Char) < 'Z' := by decide
  unfold fractionText
  by_cases whole : other = 0
  · rw [if_pos whole]
    by_cases zero : one = 0
    · rw [if_pos zero]
      simp [whole, List.cons_lt_cons_iff, suffix]
    · rw [if_neg zero]
      simp [whole, List.cons_lt_cons_iff, point]
  · rw [if_neg whole]
    by_cases zero : one = 0
    · rw [if_pos zero]
      simp [zero, List.cons_lt_cons_iff, offset]
    · rw [if_neg zero, List.cons_append, List.cons_append, List.cons_lt_cons_iff,
        padded_append_lt first second]
      simp [whole, List.cons_lt_cons_iff, suffix]
      omega

theorem stored_fraction_lt {one other : Nat} (first : one < 1000000) (second : other < 1000000) :
    fractionText one ++ ['Z'] < fractionText other ++ ['Z'] ↔
      one ≠ 0 ∧ (other = 0 ∨ one < other) := by
  have point : ('.' : Char) < 'Z' := by decide
  have back : ¬('Z' : Char) < '.' := by decide
  unfold fractionText
  by_cases whole : other = 0
  · rw [if_pos whole]
    by_cases zero : one = 0
    · rw [if_pos zero]
      simp [zero]
    · rw [if_neg zero]
      simp [zero, whole, List.cons_lt_cons_iff, point]
  · rw [if_neg whole]
    by_cases zero : one = 0
    · rw [if_pos zero]
      simp [zero, List.cons_lt_cons_iff, back]
    · rw [if_neg zero, List.cons_append, List.cons_append, List.cons_lt_cons_iff,
        padded_append_lt first second]
      simp [zero, whole]

section Comparison

variable {one other : Int} (first : Datetime one) (second : Datetime other)

include first second

theorem instant_lt_iff : one < other ↔ secondOf one < secondOf other ∨
    secondOf one = secondOf other ∧ microsecond one < microsecond other := by
  have left := since_of_parts first
  have right := since_of_parts second
  have small := microsecond_lt one
  have small' := microsecond_lt other
  unfold sinceYearOne at left right
  omega

theorem instant_eq_iff : one = other ↔
    secondOf one = secondOf other ∧ microsecond one = microsecond other := by
  have left := since_of_parts first
  have right := since_of_parts second
  have small := microsecond_lt one
  have small' := microsecond_lt other
  unfold sinceYearOne at left right
  omega

/-- A stored text is greater than a bound one. -/
theorem bound_lt_stored : boundText one < storedText other ↔ secondOf one < secondOf other ∨
    secondOf one = secondOf other ∧ (microsecond other = 0 ∨ microsecond one ≤ microsecond other) := by
  unfold boundText storedText
  rw [String.lt_iff_toList_lt, String.toList_ofList, String.toList_ofList,
    second_text_lt (second_lt first) (second_lt second),
    fraction_lt (microsecond_lt one) (microsecond_lt other)]

theorem stored_lt_stored : storedText one < storedText other ↔ secondOf one < secondOf other ∨
    secondOf one = secondOf other ∧ (microsecond one ≠ 0 ∧
      (microsecond other = 0 ∨ microsecond one < microsecond other)) := by
  unfold storedText
  rw [String.lt_iff_toList_lt, String.toList_ofList, String.toList_ofList,
    second_text_lt (second_lt first) (second_lt second),
    stored_fraction_lt (microsecond_lt one) (microsecond_lt other)]

end Comparison

/-- A stored instant that is not later than a bound one, with a greater text: in the
same second, and with no fraction or equal to it. -/
def Misread (stored bound : Instant) : Prop :=
  secondOf stored = secondOf bound ∧ (microsecond stored = 0 ∨ stored = bound)

/-- Two stored instants whose texts are in the other order: in one second, one of
them with no fraction. -/
def Misordered (one other : Instant) : Prop :=
  secondOf one = secondOf other ∧ ¬(microsecond one = 0 ↔ microsecond other = 0)

theorem misordered_symm {one other : Instant} (misordered : Misordered one other) :
    Misordered other one :=
  ⟨misordered.1.symm, fun same => misordered.2 same.symm⟩

theorem text_later_iff {stored bound : Instant} (first : Datetime stored)
    (second : Datetime bound) :
    (boundText bound < storedText stored ↔ bound < stored) ↔ ¬Misread stored bound := by
  rw [bound_lt_stored second first, instant_lt_iff second first]
  unfold Misread
  rw [instant_eq_iff first second]
  omega

theorem text_order_iff {one other : Instant} (first : Datetime one) (second : Datetime other) :
    ((storedText one < storedText other ↔ one < other) ∧
      (storedText other < storedText one ↔ other < one)) ↔ ¬Misordered one other := by
  rw [stored_lt_stored first second, stored_lt_stored second first, instant_lt_iff first second,
    instant_lt_iff second first]
  unfold Misordered
  omega

/-! ### SQLite -/

/-- What SQLite sorts a column by: NULL first, then the bytes of the text. -/
def columnText : Cell → WithBot String
  | .null => ⊥
  | .text value => value
  | .instant value => storedText value

def sqlite : Database where
  lower := Text.lower
  order := (Ranking.linear (WithBot String)).on columnText
  after stored now := decide (boundText now < storedText stored)
  nested one other := by
    rcases le_total (boundText one) (boundText other) with earlier | later
    · right
      intro stored
      simpa using lt_of_le_of_lt earlier
    · left
      intro stored
      simpa using lt_of_le_of_lt later

/-! ### The listing of tokens -/

/-- The unrevoked tokens a search finds. -/
def liveTokens (platform : Effects.Platform) (query : ListQuery) (table : List Token) : List Token :=
  table.filter (SqlStorage.tokensLive platform sqlite query fun _ => true)

/-- Rows by `expires_at`, in a direction. -/
def Chronological (sortDir : String) (rows : List Token) : Prop :=
  rows.Pairwise fun left right =>
    if sortDir = "asc" then left.expiresAt ≤ right.expiresAt else right.expiresAt ≤ left.expiresAt

theorem filter_eq_iff {α : Type} {keep other : α → Bool} {rows : List α} :
    rows.filter keep = rows.filter other ↔ ∀ row ∈ rows, keep row = other row := by
  constructor
  · intro same row member
    have either : row ∈ rows.filter keep ↔ row ∈ rows.filter other := by rw [same]
    simp only [List.mem_filter, member, true_and] at either
    exact Bool.eq_iff_iff.2 either
  · exact List.filter_congr

section Filters

variable {platform : Effects.Platform} {query : ListQuery} {now : Instant} {table : List Token}

/-- Two tests of the expiry that differ where it is misread select the same rows exactly
when no live row's is. -/
theorem live_rows_iff {selects exact : Instant → Bool}
    (datetimes : ∀ token ∈ table, Datetime token.expiresAt)
    (differ : ∀ stored, Datetime stored → (selects stored = exact stored ↔ ¬Misread stored now)) :
    table.filter (SqlStorage.tokensLive platform sqlite query selects) =
        table.filter (SqlStorage.tokensLive platform sqlite query exact) ↔
      ∀ token ∈ liveTokens platform query table, ¬Misread token.expiresAt now := by
  rw [filter_eq_iff]
  unfold liveTokens SqlStorage.tokensLive
  constructor
  · intro agree token member
    obtain ⟨listed, live⟩ := List.mem_filter.1 member
    simp only [Bool.and_eq_true, Bool.not_eq_true'] at live
    have same := agree token listed
    rw [live.1, live.2.1] at same
    exact (differ _ (datetimes token listed)).1 same
  · intro clean token listed
    cases found : SqlStorage.tokensSearch platform sqlite query token with
    | false => rfl
    | true =>
        cases revoked : token.revoked with
        | true => rfl
        | false =>
            have live : token ∈ table.filter fun token =>
                SqlStorage.tokensSearch platform sqlite query token && (!token.revoked && true) := by
              apply List.mem_filter.2
              rw [found, revoked]
              exact ⟨listed, rfl⟩
            rw [(differ _ (datetimes token listed)).2 (clean token live)]

theorem sqlite_after (stored bound : Instant) :
    sqlite.after stored bound = true ↔ boundText bound < storedText stored :=
  decide_eq_true_iff

theorem active_rows_iff (active : query.status = some "active") (present : Datetime now)
    (datetimes : ∀ token ∈ table, Datetime token.expiresAt) :
    table.filter (SqlStorage.tokensWhere platform sqlite query now) =
        table.filter (SqlStorage.tokensLive platform sqlite query fun stored =>
          decide (now < stored)) ↔
      ∀ token ∈ liveTokens platform query table, ¬Misread token.expiresAt now := by
  rw [SqlStorage.tokens_where_active active]
  apply live_rows_iff datetimes
  intro stored datetime
  rw [← text_later_iff datetime present, ← sqlite_after, Bool.eq_iff_iff, decide_eq_true_iff]

theorem expired_rows_iff (expired : query.status = some "expired") (present : Datetime now)
    (datetimes : ∀ token ∈ table, Datetime token.expiresAt) :
    table.filter (SqlStorage.tokensWhere platform sqlite query now) =
        table.filter (SqlStorage.tokensLive platform sqlite query fun stored =>
          decide (stored ≤ now)) ↔
      ∀ token ∈ liveTokens platform query table, ¬Misread token.expiresAt now := by
  rw [SqlStorage.tokens_where_expired expired]
  apply live_rows_iff datetimes
  intro stored datetime
  rw [← text_later_iff datetime present, ← sqlite_after, Bool.eq_iff_iff, decide_eq_true_iff,
    Bool.not_eq_true', ← Bool.not_eq_true, ← not_lt]
  exact not_iff_not

theorem ordered_le {rows : List Token} (sorted : query.sortBy = some "expires_at")
    (arranged : SqlStorage.Arranged (SqlStorage.tokenOrder sqlite query) rows) :
    arranged.ordered.Pairwise fun left right =>
      if query.sortDir = "asc" then storedText left.expiresAt ≤ storedText right.expiresAt
      else storedText right.expiresAt ≤ storedText left.expiresAt := by
  have texts := arranged.arranges.sorted
  apply texts.imp
  intro left right before
  have column : whitelistCol query.sortBy tokenSortCols (by decide) = "expires_at" := by
    rw [sorted]
    decide
  unfold SqlStorage.tokenOrder SqlStorage.order at before
  rw [column] at before
  split_ifs with ascending
  · rw [ascending] at before
    exact WithBot.coe_le_coe.1 (of_decide_eq_true before)
  · rw [if_neg (by simpa using ascending)] at before
    exact WithBot.coe_le_coe.1 (of_decide_eq_true before)

/-- Texts in their order that are not misordered are in the order of time. -/
theorem le_of_text_le {one other : Instant} (first : Datetime one) (second : Datetime other)
    (clean : ¬Misordered one other) (texts : storedText one ≤ storedText other) : one ≤ other := by
  by_contra later
  have orders := (text_order_iff first second).2 clean
  exact not_lt_of_ge texts (orders.2.2 (not_le.1 later))

theorem clean_of_orders {one other : Instant} (first : Datetime one) (second : Datetime other)
    (texts : storedText one ≤ storedText other) (times : one ≤ other) : ¬Misordered one other := by
  intro misordered
  have back := mt (stored_lt_stored second first).2 (not_lt_of_ge texts)
  have early := mt (instant_lt_iff second first).2 (not_lt_of_ge times)
  unfold Misordered at misordered
  omega

/-- Every order the database may return is chronological exactly when no two rows are
misordered. -/
theorem order_rows_iff {rows : List Token} (sorted : query.sortBy = some "expires_at")
    (datetimes : ∀ token ∈ rows, Datetime token.expiresAt) :
    (∀ arranged : SqlStorage.Arranged (SqlStorage.tokenOrder sqlite query) rows,
      Chronological query.sortDir arranged.ordered) ↔
      ∀ one ∈ rows, ∀ other ∈ rows, ¬Misordered one.expiresAt other.expiresAt := by
  constructor
  · intro chronological one member other member'
    let arranged : SqlStorage.Arranged (SqlStorage.tokenOrder sqlite query) rows :=
      ⟨_, arranges_sort _ rows⟩
    have same := fun row => arranged.arranges.perm.mem_iff (a := row)
    have both := (ordered_le sorted arranged).and (chronological arranged)
    have clean : arranged.ordered.Pairwise fun left right =>
        ¬Misordered left.expiresAt right.expiresAt := by
      apply both.imp_of_mem
      intro left right early late orders
      have first := datetimes left ((same _).1 early)
      have second := datetimes right ((same _).1 late)
      by_cases ascending : query.sortDir = "asc"
      · rw [if_pos ascending, if_pos ascending] at orders
        exact clean_of_orders first second orders.1 orders.2
      · rw [if_neg ascending, if_neg ascending] at orders
        exact fun misordered =>
          clean_of_orders second first orders.1 orders.2 (misordered_symm misordered)
    have flipped : arranged.ordered.Pairwise
        (flip fun left right => ¬Misordered left.expiresAt right.expiresAt) :=
      clean.imp fun apart misordered => apart (misordered_symm misordered)
    have itself : ∀ row ∈ arranged.ordered, ¬Misordered row.expiresAt row.expiresAt :=
      fun row _ misordered => misordered.2 Iff.rfl
    exact List.Pairwise.forall_of_forall_of_flip itself clean flipped ((same _).2 member)
      ((same _).2 member')
  · intro clean arranged
    have same := fun row => arranged.arranges.perm.mem_iff (a := row)
    apply (ordered_le sorted arranged).imp_of_mem
    intro left right early late texts
    have apart := clean left ((same _).1 early) right ((same _).1 late)
    have first := datetimes left ((same _).1 early)
    have second := datetimes right ((same _).1 late)
    split_ifs at texts ⊢
    · exact le_of_text_le first second apart texts
    · exact le_of_text_le second first (fun misordered => apart (misordered_symm misordered)) texts

end Filters

/-- The texts are read right except within one second of each other. -/
theorem timestamp_text_iff (platform : Effects.Platform) :
    (∀ stored bound, Datetime stored → Datetime bound →
      ((boundText bound < storedText stored ↔ bound < stored) ↔ ¬Misread stored bound)) ∧
    (∀ (query : ListQuery) (now : Instant) (table : List Token), Datetime now →
      (∀ token ∈ table, Datetime token.expiresAt) →
      (query.status = some "active" →
        (table.filter (SqlStorage.tokensWhere platform sqlite query now) =
            table.filter (SqlStorage.tokensLive platform sqlite query fun stored =>
              decide (now < stored)) ↔
          ∀ token ∈ liveTokens platform query table, ¬Misread token.expiresAt now)) ∧
      (query.status = some "expired" →
        (table.filter (SqlStorage.tokensWhere platform sqlite query now) =
            table.filter (SqlStorage.tokensLive platform sqlite query fun stored =>
              decide (stored ≤ now)) ↔
          ∀ token ∈ liveTokens platform query table, ¬Misread token.expiresAt now)) ∧
      (query.sortBy = some "expires_at" →
        ((∀ arranged : SqlStorage.Arranged (SqlStorage.tokenOrder sqlite query)
            (table.filter (SqlStorage.tokensWhere platform sqlite query now)),
          Chronological query.sortDir arranged.ordered) ↔
        ∀ one ∈ table.filter (SqlStorage.tokensWhere platform sqlite query now),
          ∀ other ∈ table.filter (SqlStorage.tokensWhere platform sqlite query now),
            ¬Misordered one.expiresAt other.expiresAt))) := by
  constructor
  · intro stored bound first second
    exact text_later_iff first second
  · intro query now table present datetimes
    refine ⟨fun active => active_rows_iff active present datetimes,
      fun expired => expired_rows_iff expired present datetimes, fun sorted => ?_⟩
    apply order_rows_iff sorted
    intro token member
    exact datetimes token (List.mem_of_mem_filter member)

/-- A token that expires half a second from now is active. -/
theorem half_second_read :
    (boundText 1000000 < storedText 1500000 ↔ (1000000 : Int) < 1500000) ∧
    [{ Runs.sampleToken with expiresAt := 1500000 }].filter
        (SqlStorage.tokensWhere Runs.samplePlatform sqlite { status := some "active" } 1000000) =
      [{ Runs.sampleToken with expiresAt := 1500000 }].filter
        (SqlStorage.tokensLive Runs.samplePlatform sqlite { status := some "active" } fun stored =>
          decide (1000000 < stored)) := by
  obtain ⟨texts, rows⟩ := timestamp_text_iff Runs.samplePlatform
  have clean : ¬Misread 1500000 1000000 := by
    unfold Misread
    decide +kernel
  constructor
  · exact (texts 1500000 1000000 (by decide) (by decide)).2 clean
  · have listed : ∀ token ∈ [{ Runs.sampleToken with expiresAt := 1500000 }],
        token.expiresAt = 1500000 := by simp
    have read := rows { status := some "active" } 1000000
      [{ Runs.sampleToken with expiresAt := 1500000 }] (by decide)
      (fun token member => by rw [listed token member]; decide)
    apply (read.1 rfl).2
    intro token member
    rw [listed token (List.mem_of_mem_filter member)]
    exact clean

/-- A token that expires now, at a whole second, is listed as active. -/
theorem expired_token_active :
    ¬∀ stored bound : Instant, Datetime stored → Datetime bound →
      (boundText bound < storedText stored ↔ bound < stored) := by
  intro always
  have epoch : Datetime 0 := by decide
  have later := (bound_lt_stored epoch epoch).2 (.inr ⟨rfl, .inr (le_refl _)⟩)
  exact absurd ((always 0 0 epoch epoch).1 later) (lt_irrefl 0)

end OAuth2Server.TimestampText
