import TcdOran.Lib.JsonText
import TcdOran.Lib.Python

/-! What Python's codecs, files and `json` make of bytes and texts: decoding with replacement,
lines with universal newlines, and the strings of `json.dumps`. -/
namespace TcdOran.Lib.Python

/-! ### Decoding with replacement -/

/-- A character that has been begun: the value of its first bytes, the bounds of the next byte, and
how many bytes follow that one. -/
structure Begun where
  value : ℕ
  low : ℕ
  high : ℕ
  further : ℕ

/-- The first byte of a character. -/
def firstByte (b : ℕ) : List ℕ × Option Begun :=
  if b < 0x80 then ([b], none)
  else if 0xC2 ≤ b ∧ b ≤ 0xDF then ([], some ⟨b - 0xC0, 0x80, 0xBF, 0⟩)
  else if b = 0xE0 then ([], some ⟨b - 0xE0, 0xA0, 0xBF, 1⟩)
  else if b = 0xED then ([], some ⟨b - 0xE0, 0x80, 0x9F, 1⟩)
  else if 0xE1 ≤ b ∧ b ≤ 0xEF then ([], some ⟨b - 0xE0, 0x80, 0xBF, 1⟩)
  else if b = 0xF0 then ([], some ⟨b - 0xF0, 0x90, 0xBF, 2⟩)
  else if b = 0xF4 then ([], some ⟨b - 0xF0, 0x80, 0x8F, 2⟩)
  else if 0xF1 ≤ b ∧ b ≤ 0xF3 then ([], some ⟨b - 0xF0, 0x80, 0xBF, 2⟩)
  else ([0xFFFD], none)

/-- The next byte; one that cannot follow ends what has been begun and is looked at again. -/
def nextByte (begun : Option Begun) (b : ℕ) : List ℕ × Option Begun :=
  match begun with
  | none => firstByte b
  | some c =>
      if c.low ≤ b ∧ b ≤ c.high then
        let value := c.value * 64 + (b - 0x80)
        if c.further = 0 then ([value], none) else ([], some ⟨value, 0x80, 0xBF, c.further - 1⟩)
      else (0xFFFD :: (firstByte b).1, (firstByte b).2)

def decodeReplaceFrom (begun : Option Begun) : List UInt8 → List ℕ
  | [] => if begun.isSome then [0xFFFD] else []
  | b :: bs =>
      (nextByte begun b.toNat).1 ++ decodeReplaceFrom (nextByte begun b.toNat).2 bs

/-- `data.decode("utf-8", errors="replace")`. -/
def decodeReplace (data : List UInt8) : List ℕ := decodeReplaceFrom none data

def Scalar (u : ℕ) : Prop := u < 0xD800 ∨ (0xDFFF < u ∧ u < 0x110000)

/-- However the character goes on, it is a scalar value. -/
structure Begun.Sound (c : Begun) : Prop where
  low : 0x80 ≤ c.low
  high : c.high ≤ 0xBF
  further : c.further ≤ 2
  scalar : ∀ b rest, c.low ≤ b → b ≤ c.high → rest < 64 ^ c.further →
    Scalar ((c.value * 64 + (b - 0x80)) * 64 ^ c.further + rest)

theorem firstByte_sound (b : ℕ) :
    (∀ u ∈ (firstByte b).1, Scalar u) ∧ ∀ c ∈ (firstByte b).2, c.Sound := by
  unfold firstByte
  split_ifs <;> refine ⟨?_, ?_⟩ <;>
    simp only [List.mem_singleton, List.not_mem_nil, false_imp_iff, implies_true, forall_eq,
      Option.mem_def, Option.some.injEq, forall_eq', reduceCtorEq]
  -- a character of one byte, the replacement character, and a character that has been begun
  all_goals first
    | exact Or.inl (by omega)
    | exact Or.inr (by omega)
    | refine ⟨by simp, by simp, by simp, fun d rest hlow hhigh hrest => ?_⟩
      norm_num [Scalar] at hrest hlow hhigh ⊢
      omega

theorem nextByte_sound {begun : Option Begun} (h : ∀ c ∈ begun, c.Sound) (b : ℕ) :
    (∀ u ∈ (nextByte begun b).1, Scalar u) ∧ ∀ c ∈ (nextByte begun b).2, c.Sound := by
  cases begun with
  | none => exact firstByte_sound b
  | some c =>
    have hc := h c rfl
    unfold nextByte
    dsimp only
    split_ifs with hb hfurther
    · have hvalue := hc.scalar b 0 hb.1 hb.2 (by positivity)
      rw [hfurther, pow_zero, Nat.mul_one, Nat.add_zero] at hvalue
      simpa using hvalue
    · refine ⟨by simp, ?_⟩
      simp only [Option.mem_def, Option.some.injEq, forall_eq']
      have hlast := hc.further
      refine ⟨le_rfl, le_rfl, by simp; omega, fun d rest hlow hhigh hrest => ?_⟩
      dsimp only at hlow hhigh hrest ⊢
      have hscalar := hc.scalar b ((d - 0x80) * 64 ^ (c.further - 1) + rest) hb.1 hb.2
      obtain hone | htwo : c.further = 1 ∨ c.further = 2 := by omega
      · simp only [hone, Nat.sub_self, pow_zero, pow_one, Nat.mul_one] at hrest hscalar ⊢
        convert hscalar (by omega) using 1
        omega
      · simp only [htwo, Nat.reduceSub, pow_one, Nat.reducePow] at hrest hscalar ⊢
        convert hscalar (by omega) using 1
        omega
    · refine ⟨?_, (firstByte_sound b).2⟩
      intro u hu
      rcases List.mem_cons.mp hu with rfl | hu
      · exact .inr (by omega)
      · exact (firstByte_sound b).1 u hu

theorem decodeReplaceFrom_scalar {begun : Option Begun} {data : List UInt8}
    (h : ∀ c ∈ begun, c.Sound) : ∀ u ∈ decodeReplaceFrom begun data, Scalar u := by
  induction data generalizing begun with
  | nil =>
    intro u hu
    rw [decodeReplaceFrom] at hu
    split_ifs at hu
    · rw [List.mem_singleton] at hu
      exact .inr (by omega)
    · simp at hu
  | cons b bs ih =>
    obtain ⟨hout, hbegun⟩ := nextByte_sound h b.toNat
    intro u hu
    rw [decodeReplaceFrom, List.mem_append] at hu
    rcases hu with hu | hu
    · exact hout u hu
    · exact ih hbegun u hu

theorem decodeReplace_scalar (data : List UInt8) : ∀ u ∈ decodeReplace data, Scalar u :=
  decodeReplaceFrom_scalar (by simp)

theorem toNat_ofNat_scalar {u : ℕ} (h : Scalar u) : (Char.ofNat u).toNat = u := by
  obtain ⟨c, rfl⟩ := exists_char h
  exact congrArg Char.toNat (Char.ofNat_toNat c)

example : decodeReplace [0x61, 0xE2, 0x82, 0x41, 0xC0, 0xE2, 0x82, 0xAC, 0xF0, 0x9F] =
    [0x61, 0xFFFD, 0x41, 0xFFFD, 0x20AC, 0xFFFD] := by decide

/-! ### Lines -/

section
variable {α : Type} [DecidableEq α]

/-- `line` is what has been read of the current line. -/
def universalLinesFrom (lf cr : α) (ending line : List α) : List α → List (List α)
  | [] => if line = [] then [] else [line]
  | u :: rest =>
      -- a carriage return and the line feed behind it are one break
      if u = cr ∧ rest.head? = some lf then universalLinesFrom lf cr ending line rest
      else if u = lf ∨ u = cr then (line ++ ending) :: universalLinesFrom lf cr ending [] rest
      else universalLinesFrom lf cr ending (line ++ [u]) rest

variable {lf cr : α} {ending : List α}

theorem universalLinesFrom_body {body : List α} (hlf : lf ∉ body) (hcr : cr ∉ body)
    (line rest : List α) (hne : lf ≠ cr) :
    universalLinesFrom lf cr ending line (body ++ lf :: rest) =
      (line ++ body ++ ending) :: universalLinesFrom lf cr ending [] rest := by
  induction body generalizing line with
  | nil => simp [universalLinesFrom, hne]
  | cons u body ih =>
    simp only [List.mem_cons, not_or] at hlf hcr
    have hulf : u ≠ lf := fun h => hlf.1 h.symm
    have hucr : u ≠ cr := fun h => hcr.1 h.symm
    rw [List.cons_append, universalLinesFrom, if_neg (by simp [hucr]), if_neg (by simp [hulf, hucr]),
      ih hlf.2 hcr.2]
    simp

/-- Texts of lines without breaks in them are split into the lines they have been made of. -/
theorem universalLinesFrom_bodies {bodies : List (List α)} (hne : lf ≠ cr)
    (h : ∀ body ∈ bodies, lf ∉ body ∧ cr ∉ body) :
    universalLinesFrom lf cr ending [] (bodies.flatMap (· ++ [lf])) = bodies.map (· ++ ending) := by
  induction bodies with
  | nil => rfl
  | cons body bodies ih =>
    obtain ⟨hlf, hcr⟩ := h body List.mem_cons_self
    rw [List.flatMap_cons, List.append_assoc, List.singleton_append,
      universalLinesFrom_body hlf hcr _ _ hne, List.nil_append, List.map_cons,
      ih fun b hb => h b (List.mem_cons_of_mem body hb)]

end

/-- `data.splitlines()`. -/
def byteLines (data : List UInt8) : List (List UInt8) := universalLinesFrom 10 13 [] [] data

/-- The lines of a file that has been opened as text. -/
def fileLines (text : List ℕ) : List (List ℕ) := universalLinesFrom 10 13 [10] [] text

/-! ### Lines of a string -/

theorem strip_ne_nil {text : List ℕ} {u : ℕ} (hu : u ∈ text) (h : isSpace u = false) :
    strip text ≠ [] := by
  intro hnil
  rw [strip, List.rdropWhile_eq_nil_iff] at hnil
  have hall : ∀ v ∈ text, isSpace v = true := by
    intro v hv
    by_cases hdrop : v ∈ text.dropWhile isSpace
    · exact hnil v hdrop
    · have hsplit := List.takeWhile_append_dropWhile (p := isSpace) (l := text)
      rw [← hsplit, List.mem_append] at hv
      exact List.mem_takeWhile_imp (hv.resolve_right hdrop)
  rw [hall u hu] at h
  cases h

def hexUnit (d : ℕ) : ℕ := if d < 10 then 48 + d else 87 + d

/-- A character between the quotes, with `ensure_ascii=False`. -/
def escapeUnit (u : ℕ) : List ℕ :=
  if u = 34 then [92, 34]
  else if u = 92 then [92, 92]
  else if u = 10 then [92, 110]
  else if u = 13 then [92, 114]
  else if u = 9 then [92, 116]
  else if u = 12 then [92, 102]
  else if u = 8 then [92, 98]
  else if u < 32 then [92, 117, 48, 48, hexUnit (u / 16), hexUnit (u % 16)]
  else [u]

def stringText (text : List ℕ) : List ℕ := 34 :: (text.flatMap escapeUnit ++ [34])

theorem stringBody_escapeUnit (u : ℕ) : Json.StringBody (escapeUnit u) [u] := by
  have hhex : ∀ v < 32, Json.hexQuad [48, 48, hexUnit (v / 16), hexUnit (v % 16)] = some (v, []) := by
    decide
  unfold escapeUnit
  split_ifs with h34 h92 h10 h13 h9 h12 h8 hlow
  all_goals first
    | subst u; exact .short rfl .nil
    | exact .unicode (hhex u hlow) (by omega) .nil
    | exact .plain (by omega) h34 h92 .nil

theorem stringBody_escaped (text : List ℕ) : Json.StringBody (text.flatMap escapeUnit) text := by
  induction text with
  | nil => exact .nil
  | cons u text ih => exact (stringBody_escapeUnit u).append ih

theorem prints_stringText (text : List ℕ) : Json.Prints (stringText text) (.str text) :=
  Json.prints_str (stringBody_escaped text)

/-- A character of a string is one of its text or belongs to an escape. -/
theorem mem_stringText {text : List ℕ} {u : ℕ} (hu : u ∈ stringText text) :
    (32 ≤ u ∧ u < 128) ∨ (u ∈ text ∧ 32 ≤ u) := by
  have hhex (d : ℕ) (hd : d < 16) : 32 ≤ hexUnit d ∧ hexUnit d < 128 := by
    unfold hexUnit
    split_ifs <;> omega
  simp only [stringText, List.mem_cons, List.mem_append, List.not_mem_nil, or_false,
    List.mem_flatMap] at hu
  rcases hu with rfl | ⟨v, hv, hu⟩ | rfl
  · exact .inl (by decide)
  · have hlow := hhex (v % 16) (Nat.mod_lt v (by decide))
    unfold escapeUnit at hu
    split_ifs at hu <;> simp only [List.mem_cons, List.not_mem_nil, or_false] at hu
    all_goals first
      | exact .inl (by omega)
      | skip
    · have hhigh := hhex (v / 16) (by omega)
      exact .inl (by omega)
    · exact .inr ⟨hu ▸ hv, by omega⟩
  · exact .inl (by decide)

/-! ### Objects of `json.dumps` -/

inductive PyScalar
  | int (value : ℤ)
  | str (text : List ℕ)

def PyScalar.text : PyScalar → List ℕ
  | .int value => intText value
  | .str text => stringText text

def PyScalar.json : PyScalar → Json
  | .int value => .num (.ofInt value)
  | .str text => .str text

/-- `json.dumps(fields, ensure_ascii=False, separators=(",", ":"))`. -/
def dumps (fields : List (String × PyScalar)) : List ℕ :=
  dictText (fields.map fun field => (field.1, field.2.text))

def loadedMembers (fields : List (String × PyScalar)) : List (List ℕ × Json) :=
  fields.map fun field => (chars field.1, field.2.json)

/-- A key that needs no escape. -/
def PlainKey (key : String) : Prop := ∀ u ∈ chars key, 32 ≤ u ∧ u ≠ 34 ∧ u ≠ 92 ∧ u < 128

instance (key : String) : Decidable (PlainKey key) := inferInstanceAs (Decidable (∀ u ∈ chars key, _))

theorem PyScalar.prints (value : PyScalar) : Json.Prints value.text value.json := by
  cases value with
  | int value =>
    rw [PyScalar.text, intText, ← NumberLiteral.text_ofInt]
    exact Json.prints_num (NumberLiteral.ofInt_valid value)
  | str text => exact prints_stringText text

theorem plainKey_body {text : List ℕ} (h : ∀ u ∈ text, 32 ≤ u ∧ u ≠ 34 ∧ u ≠ 92 ∧ u < 128) :
    Json.StringBody text text := by
  induction text with
  | nil => exact .nil
  | cons u text ih =>
    obtain ⟨h32, h34, h92, -⟩ := h u List.mem_cons_self
    exact .plain h32 h34 h92 (ih fun v hv => h v (List.mem_cons_of_mem u hv))

theorem prints_dumps {fields : List (String × PyScalar)} (hne : fields ≠ [])
    (hkeys : ∀ field ∈ fields, PlainKey field.1) :
    Json.Prints (dumps fields) (.obj (loadedMembers fields)) := by
  have hmembers : List.Forall₂ Json.PrintsMember
      (fields.map fun field => quoted field.1 ++ chars ":" ++ field.2.text)
      (loadedMembers fields) := by
    rw [loadedMembers, List.forall₂_map_left_iff, List.forall₂_map_right_iff, List.forall₂_same]
    intro field hfield
    exact ⟨chars field.1, field.2.text, by simp [quoted, chars], plainKey_body (hkeys field hfield),
      field.2.prints⟩
  have hprints := Json.prints_obj hmembers (by simpa using hne)
  rw [dumps, dictText, List.map_map]
  exact hprints

theorem parse_prints_end {text : List ℕ} {value : Json} (h : Json.Prints text value) :
    Json.parse text = some value := by
  have hread := h (text.length + 1) [] (Nat.le_succ _) (by rintro u us ⟨⟩)
  rw [List.append_nil] at hread
  rw [Json.parse, hread]
  rfl

theorem mem_intText {z : ℤ} {u : ℕ} (h : u ∈ intText z) : 32 ≤ u ∧ u < 128 := by
  rw [intText, ← NumberLiteral.text_ofInt] at h
  have hunit := NumberLiteral.isNumberUnit_of_mem_text (NumberLiteral.ofInt_valid z) h
  simp only [NumberLiteral.IsNumberUnit, isDigit, decide_eq_true_eq] at hunit
  omega

theorem mem_joined {separator : List ℕ} {texts : List (List ℕ)} {u : ℕ}
    (h : u ∈ separator.intercalate texts) : u ∈ separator ∨ ∃ text ∈ texts, u ∈ text := by
  match texts with
  | [] => simp [List.intercalate] at h
  | [text] => exact .inr ⟨text, List.mem_singleton_self text, by simpa [List.intercalate] using h⟩
  | text :: next :: texts =>
    have hsplit : separator.intercalate (text :: next :: texts) =
        text ++ (separator ++ separator.intercalate (next :: texts)) := by simp [List.intercalate]
    rw [hsplit, List.mem_append, List.mem_append] at h
    rcases h with h | h | h
    · exact .inr ⟨text, List.mem_cons_self, h⟩
    · exact .inl h
    · exact (mem_joined h).imp_right fun ⟨t, ht, hu⟩ => ⟨t, List.mem_cons_of_mem text ht, hu⟩

/-- A character of an object is plain or belongs to one of its texts. -/
theorem mem_dumps {fields : List (String × PyScalar)} (hkeys : ∀ field ∈ fields, PlainKey field.1)
    {u : ℕ} (hu : u ∈ dumps fields) : (32 ≤ u ∧ u < 128) ∨
      ∃ field ∈ fields, ∃ text, field.2 = .str text ∧ u ∈ text ∧ 32 ≤ u := by
  simp only [dumps, dictText, List.mem_append, List.map_map] at hu
  rcases hu with (hu | hu) | hu
  · exact .inl (by simp [chars] at hu; omega)
  · rcases mem_joined hu with hu | ⟨text, hmem, hu⟩
    · exact .inl (by simp [chars] at hu; omega)
    · obtain ⟨⟨key, value⟩, hfield, rfl⟩ := List.mem_map.mp hmem
      simp only [Function.comp, quoted, List.mem_append] at hu
      rcases hu with ((((hu | hu) | hu) | hu) | hu)
      · exact .inl (by simp [chars] at hu; omega)
      · obtain ⟨h32, -, -, h128⟩ := hkeys _ hfield u hu
        exact .inl ⟨h32, h128⟩
      · exact .inl (by simp [chars] at hu; omega)
      · exact .inl (by simp [chars] at hu; omega)
      · cases value with
        | int value => exact .inl (mem_intText hu)
        | str text => exact (mem_stringText hu).imp_right fun hmem => ⟨_, hfield, text, rfl, hmem⟩
  · exact .inl (by simp [chars] at hu; omega)

theorem scalar_dumps {fields : List (String × PyScalar)} (hkeys : ∀ field ∈ fields, PlainKey field.1)
    (htexts : ∀ field ∈ fields, ∀ text, field.2 = .str text → ∀ u ∈ text, Scalar u) :
    ∀ u ∈ dumps fields, Scalar u ∧ 32 ≤ u := by
  intro u hu
  obtain hplain | ⟨field, hfield, text, hvalue, hmem, h32⟩ := mem_dumps hkeys hu
  · exact ⟨.inl (by omega), hplain.1⟩
  · exact ⟨htexts field hfield text hvalue u hmem, h32⟩

/-! ### UTF-8 of texts -/

theorem utf8OfCodePoints_append (us vs : List ℕ) :
    utf8OfCodePoints (us ++ vs) = utf8OfCodePoints us ++ utf8OfCodePoints vs := by
  rw [utf8OfCodePoints, List.map_append, encodeUtf8_append]
  rfl

theorem utf8OfCodePoints_flatMap {α : Type} (f : α → List ℕ) (xs : List α) :
    utf8OfCodePoints (xs.flatMap f) = xs.flatMap fun x => utf8OfCodePoints (f x) := by
  induction xs with
  | nil => rfl
  | cons x xs ih => rw [List.flatMap_cons, utf8OfCodePoints_append, ih, List.flatMap_cons]

theorem codePoints_scalars {us : List ℕ} (h : ∀ u ∈ us, Scalar u) :
    codePoints (utf8OfCodePoints us) = some us :=
  codePoints_utf8OfCodePoints fun u hu => toNat_ofNat_scalar (h u hu)

theorem utf8EncodeChar_ge {c : Char} (h : 32 ≤ c.toNat) :
    ∀ b ∈ String.utf8EncodeChar c, 32 ≤ b.toNat := by
  have hbyte {n : ℕ} (hlow : 32 ≤ n) (hhigh : n < 256) : 32 ≤ (UInt8.ofNat n).toNat := by
    rwa [UInt8.toNat_ofNat_of_lt' hhigh]
  have h' : 32 ≤ c.val.toNat := h
  intro b hb
  unfold String.utf8EncodeChar at hb
  dsimp only at hb
  split_ifs at hb <;> simp only [List.mem_cons, List.not_mem_nil, or_false] at hb
  · exact hb ▸ hbyte h' (by omega)
  · rcases hb with rfl | rfl <;> exact hbyte (by omega) (by omega)
  · rcases hb with rfl | rfl | rfl <;> exact hbyte (by omega) (by omega)
  · rcases hb with rfl | rfl | rfl | rfl <;> exact hbyte (by omega) (by omega)

/-- A text without control characters has none among its bytes. -/
theorem control_notMem_utf8 {us : List ℕ} (h : ∀ u ∈ us, Scalar u ∧ 32 ≤ u) :
    ∀ b ∈ utf8OfCodePoints us, 32 ≤ b.toNat := by
  intro b hb
  simp only [utf8OfCodePoints, encodeUtf8, List.mem_flatMap, List.mem_map] at hb
  obtain ⟨c, ⟨u, hu, rfl⟩, hb⟩ := hb
  obtain ⟨hscalar, h32⟩ := h u hu
  exact utf8EncodeChar_ge ((toNat_ofNat_scalar hscalar).symm ▸ h32) b hb

end TcdOran.Lib.Python
