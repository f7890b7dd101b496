import Mathlib.Data.List.Basic

/-!
# Markup

Generated markup as a browser reads it: tags, and inside a tag values between
double quotes whose character references are resolved. Escaped text is read
back as one value, whatever it holds, so it adds no tag and no attribute.
-/

namespace OAuth2Server.Html

set_option autoImplicit false

/-! ### Character references -/

def escapeChar (char : Char) : List Char :=
  if char = '&' then ['&', 'a', 'm', 'p', ';']
  else if char = '"' then ['&', 'q', 'u', 'o', 't', ';']
  else if char = '<' then ['&', 'l', 't', ';']
  else if char = '>' then ['&', 'g', 't', ';']
  else if char = '\'' then ['&', '#', 'x', '2', '7', ';']
  else [char]

/-- `html.escape(text, quote=True)`. -/
def escape (text : List Char) : List Char := text.flatMap escapeChar

/-- The references `escape` writes are resolved; any other `&` stands for itself. -/
def unescape : List Char → List Char
  | [] => []
  | '&' :: 'a' :: 'm' :: 'p' :: ';' :: rest => '&' :: unescape rest
  | '&' :: 'q' :: 'u' :: 'o' :: 't' :: ';' :: rest => '"' :: unescape rest
  | '&' :: 'l' :: 't' :: ';' :: rest => '<' :: unescape rest
  | '&' :: 'g' :: 't' :: ';' :: rest => '>' :: unescape rest
  | '&' :: '#' :: 'x' :: '2' :: '7' :: ';' :: rest => '\'' :: unescape rest
  | char :: rest => char :: unescape rest

theorem unescape_cons {char : Char} (ordinary : char ≠ '&') (rest : List Char) :
    unescape (char :: rest) = char :: unescape rest := by
  rw [unescape.eq_def]
  split <;> rename_i same <;> cases same
  all_goals first | rfl | exact absurd rfl ordinary

theorem unescape_escape_char (char : Char) (rest : List Char) :
    unescape (escapeChar char ++ rest) = char :: unescape rest := by
  unfold escapeChar
  split
  · rename_i same
    rw [same]
    rfl
  split
  · rename_i same
    rw [same]
    rfl
  split
  · rename_i same
    rw [same]
    rfl
  split
  · rename_i same
    rw [same]
    rfl
  split
  · rename_i same
    rw [same]
    rfl
  · rename_i ordinary _ _ _ _
    exact unescape_cons ordinary rest

theorem unescape_escape (text : List Char) : unescape (escape text) = text := by
  induction text with
  | nil => rfl
  | cons char later induction =>
      have first := unescape_escape_char char (escape later)
      rw [induction] at first
      exact first

/-- A character that ends no value and opens or closes no tag. -/
def isInert (char : Char) : Bool :=
  !(char == '"' || char == '\'' || char == '<' || char == '>')

theorem escape_char_inert (char : Char) : (escapeChar char).all isInert = true := by
  unfold escapeChar
  split
  · rfl
  split
  · rfl
  split
  · rfl
  split
  · rfl
  split
  · rfl
  · rename_i _ quote opening closing apostrophe
    simp [isInert, quote, opening, closing, apostrophe]

/-- Neither quotes nor angle brackets survive. -/
theorem escape_inert {text : List Char} {char : Char} (member : char ∈ escape text) :
    isInert char = true := by
  obtain ⟨source, _, written⟩ := List.mem_flatMap.1 member
  exact List.all_eq_true.1 (escape_char_inert source) char written

/-! ### Tags -/

/-- A tag: what stands before each quoted value, the value, and what follows the last. -/
structure Tag where
  attributes : List (String × String)
  rest : String
  deriving DecidableEq, Repr

/-- A tag without quoted values. -/
def bareTag (markup : String) : Tag where
  attributes := []
  rest := markup

inductive Reading where
  | data
  | markup (attributes : List (String × String)) (seen : List Char)
  | value (attributes : List (String × String)) (name seen : List Char)

/-- The tags of a text, read from the left. -/
def tagsFrom : Reading → List Char → List Tag
  | _, [] => []
  | .data, char :: rest =>
      if char = '<' then tagsFrom (.markup [] []) rest else tagsFrom .data rest
  | .markup attributes seen, char :: rest =>
      if char = '>' then
        { attributes := attributes, rest := String.ofList seen } :: tagsFrom .data rest
      else if char = '"' then tagsFrom (.value attributes seen []) rest
      else tagsFrom (.markup attributes (seen ++ [char])) rest
  | .value attributes name seen, char :: rest =>
      if char = '"' then
        tagsFrom (.markup
          (attributes ++ [(String.ofList name, String.ofList (unescape seen))]) []) rest
      else tagsFrom (.value attributes name (seen ++ [char])) rest

def tags (text : String) : List Tag := tagsFrom .data text.toList

theorem tags_from_data {text : List Char} (clean : ∀ char ∈ text, char ≠ '<') (rest : List Char) :
    tagsFrom .data (text ++ rest) = tagsFrom .data rest := by
  induction text with
  | nil => rfl
  | cons char later induction =>
      rw [List.cons_append, tagsFrom, if_neg (clean char List.mem_cons_self)]
      exact induction fun other member => clean other (List.mem_cons_of_mem _ member)

theorem tags_from_markup {text : List Char} (clean : ∀ char ∈ text, char ≠ '>' ∧ char ≠ '"')
    (attributes : List (String × String)) (seen rest : List Char) :
    tagsFrom (.markup attributes seen) (text ++ rest) =
      tagsFrom (.markup attributes (seen ++ text)) rest := by
  induction text generalizing seen with
  | nil => rw [List.append_nil, List.nil_append]
  | cons char later induction =>
      obtain ⟨open_, quote⟩ := clean char List.mem_cons_self
      rw [List.cons_append, tagsFrom, if_neg open_, if_neg quote,
        induction fun other member => clean other (List.mem_cons_of_mem _ member),
        List.append_assoc, List.singleton_append]

theorem tags_from_value {text : List Char} (clean : ∀ char ∈ text, char ≠ '"')
    (attributes : List (String × String)) (name seen rest : List Char) :
    tagsFrom (.value attributes name seen) (text ++ rest) =
      tagsFrom (.value attributes name (seen ++ text)) rest := by
  induction text generalizing seen with
  | nil => rw [List.append_nil, List.nil_append]
  | cons char later induction =>
      rw [List.cons_append, tagsFrom, if_neg (clean char List.mem_cons_self),
        induction fun other member => clean other (List.mem_cons_of_mem _ member),
        List.append_assoc, List.singleton_append]

/-! ### Writing tags -/

def writeAttribute (named : String × String) : List Char :=
  named.1.toList ++ '"' :: escape named.2.toList ++ ['"']

def writeTag (tag : Tag) : List Char :=
  '<' :: tag.attributes.flatMap writeAttribute ++ tag.rest.toList ++ ['>']

/-- The markup of a tag holds neither a quote nor the end of the tag. -/
def Tag.Plain (tag : Tag) : Prop :=
  ∀ markup ∈ tag.rest :: tag.attributes.map Prod.fst,
    ∀ char ∈ markup.toList, char ≠ '>' ∧ char ≠ '"'

theorem tags_from_attribute {named : String × String}
    (clean : ∀ char ∈ named.1.toList, char ≠ '>' ∧ char ≠ '"')
    (attributes : List (String × String)) (rest : List Char) :
    tagsFrom (.markup attributes []) (writeAttribute named ++ rest) =
      tagsFrom (.markup (attributes ++ [named]) []) rest := by
  have inert : ∀ char ∈ escape named.2.toList, char ≠ '"' := by
    rintro char member rfl
    have kept := escape_inert member
    revert kept
    decide
  unfold writeAttribute
  rw [List.append_assoc, List.append_assoc, tags_from_markup clean, List.cons_append, tagsFrom,
    if_neg (by decide), if_pos rfl, tags_from_value inert, List.singleton_append, tagsFrom,
    if_pos rfl]
  simp only [List.nil_append, unescape_escape, String.ofList_toList]

theorem tags_from_attributes {added : List (String × String)}
    (clean : ∀ named ∈ added, ∀ char ∈ named.1.toList, char ≠ '>' ∧ char ≠ '"')
    (attributes : List (String × String)) (rest : List Char) :
    tagsFrom (.markup attributes []) (added.flatMap writeAttribute ++ rest) =
      tagsFrom (.markup (attributes ++ added) []) rest := by
  induction added generalizing attributes with
  | nil => simp
  | cons named later induction =>
      rw [List.flatMap_cons, List.append_assoc,
        tags_from_attribute (clean named List.mem_cons_self),
        induction fun other member => clean other (List.mem_cons_of_mem _ member),
        List.append_assoc, List.singleton_append]

/-- A written tag is read back. -/
theorem tags_from_tag {tag : Tag} (plain : tag.Plain) (rest : List Char) :
    tagsFrom .data (writeTag tag ++ rest) = tag :: tagsFrom .data rest := by
  have attributes : ∀ named ∈ tag.attributes, ∀ char ∈ named.1.toList, char ≠ '>' ∧ char ≠ '"' :=
    fun named member =>
      plain named.1 (List.mem_cons_of_mem _ (List.mem_map_of_mem member))
  have closed : tagsFrom (.markup tag.attributes tag.rest.toList) ('>' :: rest) =
      tag :: tagsFrom .data rest := by
    rw [tagsFrom, if_pos rfl, String.ofList_toList]
  have spelled : writeTag tag ++ rest = '<' :: (tag.attributes.flatMap writeAttribute ++
      (tag.rest.toList ++ '>' :: rest)) := by
    simp [writeTag]
  rw [spelled, tagsFrom, if_pos rfl, tags_from_attributes attributes, List.nil_append,
    tags_from_markup (plain tag.rest List.mem_cons_self), List.nil_append, closed]

/-- Tags, each followed by text. -/
def writeDocument (document : List (Tag × String)) : List Char :=
  document.flatMap fun part => writeTag part.1 ++ part.2.toList

/-- A written document has the tags it was made of. -/
theorem tags_from_document {document : List (Tag × String)}
    (plain : ∀ part ∈ document, part.1.Plain ∧ ∀ char ∈ part.2.toList, char ≠ '<')
    (rest : List Char) :
    tagsFrom .data (writeDocument document ++ rest) =
      document.map Prod.fst ++ tagsFrom .data rest := by
  induction document with
  | nil => rfl
  | cons part later induction =>
      obtain ⟨markup, text⟩ := plain part List.mem_cons_self
      have rejoined := induction fun other member => plain other (List.mem_cons_of_mem _ member)
      unfold writeDocument at rejoined ⊢
      rw [List.flatMap_cons, List.append_assoc, List.append_assoc, tags_from_tag markup,
        tags_from_data text, rejoined]
      rfl

/-- The same for tags with a text between any two of them. -/
theorem tags_from_joined {separator : List Char} (clean : ∀ char ∈ separator, char ≠ '<')
    {tags : List Tag} (plain : ∀ tag ∈ tags, tag.Plain) (rest : List Char) :
    tagsFrom .data (List.intercalate separator (tags.map writeTag) ++ rest) =
      tags ++ tagsFrom .data rest := by
  induction tags with
  | nil => rfl
  | cons tag later induction =>
      have rejoined := induction fun other member => plain other (List.mem_cons_of_mem _ member)
      cases later with
      | nil => simpa using tags_from_tag (plain tag List.mem_cons_self) rest
      | cons next others =>
          rw [List.map_cons, List.map_cons, List.intercalate_cons_cons, ← List.map_cons,
            List.append_assoc, List.append_assoc, tags_from_tag (plain tag List.mem_cons_self),
            tags_from_data clean, rejoined]
          rfl

end OAuth2Server.Html
