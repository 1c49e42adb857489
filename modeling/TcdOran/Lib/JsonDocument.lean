import TcdOran.Lib.JsonExtended
import TcdOran.Lib.PythonDumps

/-! `json.dump` with `indent=2` and `sort_keys=True` of nested dictionaries and lists, and what
`json.loads` makes of its text. -/
namespace TcdOran.Lib

namespace Json

/-! ### Arrays -/

theorem delimited_bracket (us : List ℕ) : Delimited (93 :: us) :=
  delimited_cons (by decide) (by decide) (by decide) (by decide)

/-- No value begins with a closing bracket. -/
theorem parseValue_bracket {input rest : List ℕ} (h : skipBlank input = 93 :: rest) (fuel : ℕ) :
    parseValue fuel input = none := by
  cases fuel with
  | zero => rw [parseValue]
  | succ fuel =>
    have hliteral : parseLiteral (93 :: rest) = none := by
      simp [parseLiteral, chars, stripPrefix, parseNumber, parseSign, parseInteger, isDigit]
    simp [parseValue, h, hliteral]

theorem Prints.not_bracket {text : List ℕ} {value : Json} (h : Prints text value) {rest : List ℕ}
    (hr : Delimited rest) : expect 93 (text ++ rest) = none := by
  cases hexpect : expect 93 (text ++ rest) with
  | none => rfl
  | some behind =>
    have hread := h text.length rest (Nat.le_refl _) hr
    rw [parseValue_bracket (skipBlank_of_expect hexpect)] at hread
    cases hread

theorem parseElements_step {text : List ℕ} {element : Json} (h : Prints text element) {fuel : ℕ}
    (hf : text.length ≤ fuel) {rest : List ℕ} (hr : Delimited rest) :
    parseElements (fuel + 1) (text ++ rest) =
      match expect 44 rest with
      | some rest => do
          let (elements, rest) ← parseElements fuel rest
          return (element :: elements, rest)
      | none => do
          let rest ← expect 93 rest
          return ([element], rest) := by
  rw [parseElements, h fuel rest hf hr]
  rfl

theorem parseElements_append {blanks : List ℕ} (hblanks : ∀ u ∈ blanks, isBlank u = true) (fuel : ℕ)
    (input : List ℕ) : parseElements fuel (blanks ++ input) = parseElements fuel input := by
  cases fuel with
  | zero => simp [parseElements]
  | succ fuel => simp only [parseElements, parseValue_append hblanks]

/-- Elements with blanks behind every comma and in front of the closing bracket. -/
theorem parseElements_texts {indent closing : List ℕ} (hindent : ∀ u ∈ indent, isBlank u = true)
    (hclosing : ∀ u ∈ closing, isBlank u = true) {texts : List (List ℕ)} {elements : List Json}
    (h : List.Forall₂ Prints texts elements) (hne : texts ≠ []) (fuel : ℕ)
    (hf : (List.intercalate (44 :: indent) texts).length < fuel) (rest : List ℕ) :
    parseElements fuel (List.intercalate (44 :: indent) texts ++ (closing ++ 93 :: rest)) =
      some (elements, rest) := by
  induction h generalizing fuel with
  | nil => exact absurd rfl hne
  | @cons text element texts elements he hrest ih =>
    obtain ⟨fuel, rfl⟩ := Nat.exists_eq_succ_of_ne_zero (by omega : fuel ≠ 0)
    cases hrest with
    | nil =>
      simp only [List.intercalate, List.intersperse_singleton, List.flatten_cons, List.flatten_nil,
        List.append_nil] at hf ⊢
      rw [parseElements_step he (by omega) (delimited_blanks hclosing (delimited_bracket rest)),
        expect_append hclosing, expect_append hclosing, expect_ne (by decide) (by decide),
        expect_cons 93 (by decide)]
      rfl
    | @cons next nextElement texts' elements' hnext hrest =>
      have hsplit : List.intercalate (44 :: indent) (text :: next :: texts') =
          text ++ 44 :: (indent ++ List.intercalate (44 :: indent) (next :: texts')) := by
        simp [List.intercalate]
      rw [hsplit, List.length_append, List.length_cons, List.length_append] at hf
      rw [hsplit, List.append_assoc, List.cons_append, parseElements_step he (by omega)
        (delimited_comma _), expect_cons 44 (by decide)]
      simp only [List.append_assoc, parseElements_append hindent, ih (by simp) fuel (by omega),
        Option.bind_eq_bind, Option.bind_some]
      rfl

theorem prints_nil : Prints [91, 93] (.arr []) ∧ Prints [123, 125] (.obj []) := by
  constructor
  all_goals
    intro fuel rest hf _
    obtain ⟨fuel, rfl⟩ := Nat.exists_eq_succ_of_ne_zero (by simp at hf; omega : fuel ≠ 0)
    simp [parseValue, skipBlank, isBlank, expect]

theorem prints_arr_indented {indent closing : List ℕ} (hindent : ∀ u ∈ indent, isBlank u = true)
    (hclosing : ∀ u ∈ closing, isBlank u = true) {texts : List (List ℕ)} {elements : List Json}
    (h : List.Forall₂ Prints texts elements) (hne : texts ≠ []) :
    Prints (91 :: (indent ++ List.intercalate (44 :: indent) texts ++ (closing ++ [93])))
      (.arr elements) := by
  intro fuel rest hf _
  simp only [List.length_cons, List.length_append, List.length_nil] at hf
  obtain ⟨fuel, rfl⟩ := Nat.exists_eq_succ_of_ne_zero (by omega : fuel ≠ 0)
  have hread := parseElements_texts hindent hclosing h hne fuel (by omega) rest
  have hopen : expect 93 (List.intercalate (44 :: indent) texts ++ (closing ++ 93 :: rest)) = none := by
    cases h with
    | nil => exact absurd rfl hne
    | @cons text element texts elements he hrest =>
      cases texts with
      | nil =>
        simp only [List.intercalate, List.intersperse_singleton, List.flatten_cons, List.flatten_nil,
          List.append_nil]
        exact he.not_bracket (delimited_blanks hclosing (delimited_bracket rest))
      | cons next texts =>
        have hsplit : List.intercalate (44 :: indent) (text :: next :: texts) =
            text ++ 44 :: (indent ++ List.intercalate (44 :: indent) (next :: texts)) := by
          simp [List.intercalate]
        rw [hsplit, List.append_assoc]
        exact he.not_bracket (delimited_comma _)
  simp [parseValue, skipBlank_cons (u := 91) (by decide), expect_append hindent, hopen,
    parseElements_append hindent, hread]

end Json

namespace Python

/-! ### Documents -/

/-- What a program builds before it dumps it. -/
inductive Document where
  | scalar (value : PyScalar)
  | flag (value : Bool)
  | list (items : List Document)
  | dict (fields : List (String × Document))

/-- By the key alone. -/
def fieldOrder {α : Type} (left right : String × α) : Bool := left.1 ≤ right.1

/-- Two blanks more behind the line feed. -/
def deeper (margin : List ℕ) : List ℕ := margin ++ chars "  "

def bracketed (opening closing : ℕ) (margin : List ℕ) (texts : List (List ℕ)) : List ℕ :=
  if texts = [] then [opening, closing]
  else opening :: (deeper margin ++ (44 :: deeper margin).intercalate texts ++ (margin ++ [closing]))

mutual

/-- The text of a document; `margin` is a line feed with the blanks of the level. -/
def Document.text (margin : List ℕ) : Document → List ℕ
  | .scalar value => value.asciiText
  | .flag value => if value then chars "true" else chars "false"
  | .list items => bracketed 91 93 margin (itemTexts (deeper margin) items)
  | .dict fields =>
      bracketed 123 125 margin (((fieldTexts (deeper margin) fields).mergeSort fieldOrder).map Prod.snd)

def itemTexts (margin : List ℕ) : List Document → List (List ℕ)
  | [] => []
  | item :: items => item.text margin :: itemTexts margin items

def fieldTexts (margin : List ℕ) : List (String × Document) → List (String × List ℕ)
  | [] => []
  | (key, value) :: fields =>
      (key, quoted key ++ chars ": " ++ value.text margin) :: fieldTexts margin fields

end

/-- `json.dump(document, file, indent=2, sort_keys=True)`. -/
def dumpDocument (document : Document) : List ℕ := document.text (chars "\n")

mutual

/-- What is read back: the members are sorted. -/
def Document.json : Document → Json
  | .scalar value => value.json
  | .flag value => .bool value
  | .list items => .arr (itemValues items)
  | .dict fields =>
      .obj (((fieldValues fields).mergeSort fieldOrder).map fun field => (chars field.1, field.2))

def itemValues : List Document → List Json
  | [] => []
  | item :: items => item.json :: itemValues items

def fieldValues : List (String × Document) → List (String × Json)
  | [] => []
  | (key, value) :: fields => (key, value.json) :: fieldValues fields

end

/-- Every key needs no escape, and every text is one that is read back. -/
inductive Document.Readable : Document → Prop
  | scalar (value : PyScalar) : value.Readable → Document.Readable (.scalar value)
  | flag (value : Bool) : Document.Readable (.flag value)
  | list (items : List Document) : (∀ item ∈ items, Document.Readable item) →
      Document.Readable (.list items)
  | dict (fields : List (String × Document)) : (∀ field ∈ fields, PlainKey field.1) →
      (∀ field ∈ fields, Document.Readable field.2) → Document.Readable (.dict fields)

theorem itemTexts_eq (margin : List ℕ) (items : List Document) :
    itemTexts margin items = items.map (Document.text margin) := by
  induction items with
  | nil => rw [itemTexts, List.map_nil]
  | cons item items ih => rw [itemTexts, ih, List.map_cons]

theorem fieldTexts_eq (margin : List ℕ) (fields : List (String × Document)) :
    fieldTexts margin fields =
      fields.map fun field => (field.1, quoted field.1 ++ chars ": " ++ field.2.text margin) := by
  induction fields with
  | nil => rw [fieldTexts, List.map_nil]
  | cons field fields ih => rw [fieldTexts, ih, List.map_cons]

theorem itemValues_eq (items : List Document) : itemValues items = items.map Document.json := by
  induction items with
  | nil => rw [itemValues, List.map_nil]
  | cons item items ih => rw [itemValues, ih, List.map_cons]

theorem fieldValues_eq (fields : List (String × Document)) :
    fieldValues fields = fields.map fun field => (field.1, field.2.json) := by
  induction fields with
  | nil => rw [fieldValues, List.map_nil]
  | cons field fields ih => rw [fieldValues, ih, List.map_cons]

/-- Sorting looks at the keys only. -/
theorem sorted_map {α β : Type} (f : String × α → β) (fields : List (String × α)) :
    (fields.map fun field => (field.1, f field)).mergeSort fieldOrder =
      (fields.mergeSort fieldOrder).map fun field => (field.1, f field) :=
  (List.map_mergeSort (f := fun field : String × α => (field.1, f field)) fun _ _ _ _ => rfl).symm

theorem dict_json (fields : List (String × Document)) : (Document.dict fields).json =
    .obj ((fields.mergeSort fieldOrder).map fun field => (chars field.1, field.2.json)) := by
  rw [Document.json, fieldValues_eq, sorted_map, List.map_map]
  rfl

theorem deeper_blank {margin : List ℕ} (h : ∀ u ∈ margin, Json.isBlank u = true) :
    ∀ u ∈ deeper margin, Json.isBlank u = true :=
  List.forall_mem_append.mpr ⟨h, by decide⟩

/-- A document is read back from its text. The induction is on the document. -/
theorem Document.prints {document : Document} (h : document.Readable) :
    ∀ margin, (∀ u ∈ margin, Json.isBlank u = true) →
      Json.Prints (document.text margin) document.json := by
  induction h with
  | scalar value hvalue =>
    intro margin _
    rw [Document.text, Document.json]
    exact value.prints_asciiText hvalue
  | flag value =>
    intro margin _
    rw [Document.text, Document.json]
    cases value with
    | true => exact Json.prints_true
    | false => exact Json.prints_false
  | list items hitems ih =>
    intro margin hmargin
    have hinner := deeper_blank hmargin
    rw [Document.text, Document.json, itemTexts_eq, itemValues_eq, bracketed]
    by_cases hempty : items = []
    · rw [hempty]
      exact Json.prints_nil.1
    · rw [if_neg (by simpa using hempty)]
      refine Json.prints_arr_indented hinner hmargin ?_ (by simpa using hempty)
      rw [List.forall₂_map_left_iff, List.forall₂_map_right_iff, List.forall₂_same]
      exact fun item hitem => ih item hitem _ hinner
  | dict fields hkeys hfields ih =>
    intro margin hmargin
    have hinner := deeper_blank hmargin
    have hsorted : ∀ field ∈ fields.mergeSort fieldOrder, field ∈ fields :=
      fun _ => List.mem_mergeSort.mp
    have htexts : ((fieldTexts (deeper margin) fields).mergeSort fieldOrder).map Prod.snd =
        (fields.mergeSort fieldOrder).map fun field =>
          quoted field.1 ++ chars ": " ++ field.2.text (deeper margin) := by
      rw [fieldTexts_eq, sorted_map, List.map_map]
      rfl
    rw [Document.text, dict_json, htexts, bracketed]
    by_cases hempty : fields.mergeSort fieldOrder = []
    · rw [hempty]
      exact Json.prints_nil.2
    · rw [if_neg (by simpa using hempty)]
      refine Json.prints_obj_indented hinner hmargin ?_ (by simpa using hempty)
      rw [List.forall₂_map_left_iff, List.forall₂_map_right_iff, List.forall₂_same]
      intro field hfield
      exact ⟨chars field.1, chars " " ++ field.2.text (deeper margin), by simp [quoted, chars],
        plainKey_body (hkeys field (hsorted field hfield)),
        (ih field (hsorted field hfield) _ hinner).blanks_append (by decide)⟩

/-- What `json.loads` reads from the file that `json.dump` and a line feed have written. -/
theorem parse_dumpDocument {document : Document} (h : document.Readable) :
    Json.parse (dumpDocument document ++ [10]) = some document.json :=
  Json.parse_prints (Document.prints h _ (by decide))

/-- Sorting leaves every field under its key. -/
theorem dictLookup_dict {fields : List (String × Document)} (hnodup : (fields.map Prod.fst).Nodup)
    {key : String} {value : Document} (h : (key, value) ∈ fields) :
    ∃ members, (Document.dict fields).json = .obj members ∧
      dictLookup members (chars key) = some value.json := by
  refine ⟨_, dict_json fields, ?_⟩
  apply dictLookup_of_mem
  · rw [List.map_map]
    have hperm : ((fields.mergeSort fieldOrder).map fun field => chars field.1).Perm
        ((fields.map Prod.fst).map chars) := by
      rw [List.map_map]
      exact (List.mergeSort_perm fields fieldOrder).map _
    exact hperm.nodup_iff.mpr (hnodup.map chars_injective)
  · exact List.mem_map_of_mem (f := fun field : String × Document => (chars field.1, field.2.json))
      (List.mem_mergeSort.mpr h)

end Python
end TcdOran.Lib
