import TcdOran.Lib.Number

/-! A JSON decoder over the code points of a text, and what it makes of a text that a printer
has written without blanks. -/
namespace TcdOran.Lib

/-- The members of an object are kept in order, with repetitions. -/
inductive Json where
  | null
  | bool (value : Bool)
  | num (literal : NumberLiteral)
  | str (units : List ℕ)
  | arr (elements : List Json)
  | obj (members : List (List ℕ × Json))

namespace Json

/-! ### The decoder -/

def isBlank (u : ℕ) : Bool := u = 32 ∨ u = 9 ∨ u = 10 ∨ u = 13

def skipBlank (input : List ℕ) : List ℕ := input.dropWhile isBlank

/-- The input behind the unit, which blanks may precede. -/
def expect (u : ℕ) (input : List ℕ) : Option (List ℕ) :=
  match skipBlank input with
  | [] => none
  | v :: rest => if v = u then some rest else none

def stripPrefix : List ℕ → List ℕ → Option (List ℕ)
  | [], input => some input
  | _ :: _, [] => none
  | u :: us, v :: input => if v = u then stripPrefix us input else none

def hexValue (u : ℕ) : Option ℕ :=
  if 48 ≤ u ∧ u ≤ 57 then some (u - 48)
  else if 65 ≤ u ∧ u ≤ 70 then some (u - 55)
  else if 97 ≤ u ∧ u ≤ 102 then some (u - 87)
  else none

def hexQuad : List ℕ → Option (ℕ × List ℕ)
  | a :: b :: c :: d :: rest => do
      let a ← hexValue a
      let b ← hexValue b
      let c ← hexValue c
      let d ← hexValue d
      return (a * 4096 + b * 256 + c * 16 + d, rest)
  | _ => none

/-- A second escape that completes a surrogate pair. -/
def pairedLow (input : List ℕ) : Option (ℕ × List ℕ) := do
  let rest ← stripPrefix (chars "\\u") input
  let (low, rest) ← hexQuad rest
  if 0xDC00 ≤ low ∧ low ≤ 0xDFFF then some (low, rest) else none

def unicodeEscape (input : List ℕ) : Option (ℕ × List ℕ) := do
  let (high, rest) ← hexQuad input
  if 0xD800 ≤ high ∧ high ≤ 0xDBFF then
    match pairedLow rest with
    | some (low, rest) => some (0x10000 + (high - 0xD800) * 1024 + (low - 0xDC00), rest)
    | none => some (high, rest)
  else some (high, rest)

def shortEscape (u : ℕ) : Option ℕ :=
  if u = 34 then some 34
  else if u = 92 then some 92
  else if u = 47 then some 47
  else if u = 98 then some 8
  else if u = 102 then some 12
  else if u = 110 then some 10
  else if u = 114 then some 13
  else if u = 116 then some 9
  else none

def parseEscape : List ℕ → Option (ℕ × List ℕ)
  | [] => none
  | u :: rest => if u = 117 then unicodeEscape rest else (shortEscape u).map (·, rest)

/-- The rest of a string behind its opening quote; control characters are refused. -/
def parseString : ℕ → List ℕ → Option (List ℕ × List ℕ)
  | 0, _ => none
  | _ + 1, [] => none
  | fuel + 1, u :: rest =>
      if u = 34 then some ([], rest)
      else if u = 92 then do
        let (unit, rest) ← parseEscape rest
        let (units, rest) ← parseString fuel rest
        return (unit :: units, rest)
      else if u < 32 then none
      else do
        let (units, rest) ← parseString fuel rest
        return (u :: units, rest)

/-- A leading zero stands alone. -/
def parseInteger : List ℕ → Option (List ℕ × List ℕ)
  | [] => none
  | u :: rest =>
      if u = 48 then some ([48], rest)
      else if isDigit u then some (u :: rest.takeWhile isDigit, rest.dropWhile isDigit)
      else none

/-- A point that no digit follows is left in the input. -/
def parseFraction : List ℕ → List ℕ × List ℕ
  | [] => ([], [])
  | u :: rest =>
      if u = 46 ∧ rest.takeWhile isDigit ≠ [] then
        (rest.takeWhile isDigit, rest.dropWhile isDigit)
      else ([], u :: rest)

def parseExponentSign : List ℕ → Option ℕ × List ℕ
  | [] => (none, [])
  | u :: rest => if u = 43 ∨ u = 45 then (some u, rest) else (none, u :: rest)

def parseExponent : List ℕ → Option ExponentPart × List ℕ
  | [] => (none, [])
  | u :: rest =>
      let signed := parseExponentSign rest
      if (u = 101 ∨ u = 69) ∧ signed.2.takeWhile isDigit ≠ [] then
        (some ⟨u, signed.1, signed.2.takeWhile isDigit⟩, signed.2.dropWhile isDigit)
      else (none, u :: rest)

def parseSign : List ℕ → Bool × List ℕ
  | [] => (false, [])
  | u :: rest => if u = 45 then (true, rest) else (false, u :: rest)

def parseNumber (input : List ℕ) : Option (NumberLiteral × List ℕ) := do
  let signed := parseSign input
  let (integer, rest) ← parseInteger signed.2
  let fraction := parseFraction rest
  let exponent := parseExponent fraction.2
  return (⟨signed.1, integer, fraction.1, exponent.1⟩, exponent.2)

def parseLiteral (input : List ℕ) : Option (Json × List ℕ) :=
  ((stripPrefix (chars "null") input).map (Json.null, ·)).orElse fun _ =>
    ((stripPrefix (chars "true") input).map (Json.bool true, ·)).orElse fun _ =>
      ((stripPrefix (chars "false") input).map (Json.bool false, ·)).orElse fun _ =>
        (parseNumber input).map fun (literal, rest) => (Json.num literal, rest)

mutual

/-- Every recursive call consumes input, so the length of the input is fuel enough. -/
def parseValue : ℕ → List ℕ → Option (Json × List ℕ)
  | 0, _ => none
  | fuel + 1, input =>
      match skipBlank input with
      | [] => none
      | u :: rest =>
          if u = 34 then
            (parseString fuel rest).map fun (units, rest) => (.str units, rest)
          else if u = 123 then
            match expect 125 rest with
            | some rest => some (.obj [], rest)
            | none => (parseMembers fuel rest).map fun (members, rest) => (.obj members, rest)
          else if u = 91 then
            match expect 93 rest with
            | some rest => some (.arr [], rest)
            | none => (parseElements fuel rest).map fun (elements, rest) => (.arr elements, rest)
          else parseLiteral (u :: rest)

def parseMembers : ℕ → List ℕ → Option (List (List ℕ × Json) × List ℕ)
  | 0, _ => none
  | fuel + 1, input => do
      let rest ← expect 34 input
      let (key, rest) ← parseString fuel rest
      let rest ← expect 58 rest
      let (value, rest) ← parseValue fuel rest
      match expect 44 rest with
      | some rest => do
          let (members, rest) ← parseMembers fuel rest
          return ((key, value) :: members, rest)
      | none => do
          let rest ← expect 125 rest
          return ([(key, value)], rest)

def parseElements : ℕ → List ℕ → Option (List Json × List ℕ)
  | 0, _ => none
  | fuel + 1, input => do
      let (element, rest) ← parseValue fuel input
      match expect 44 rest with
      | some rest => do
          let (elements, rest) ← parseElements fuel rest
          return (element :: elements, rest)
      | none => do
          let rest ← expect 93 rest
          return ([element], rest)

end

/-- A text that is one value, with blanks around it. -/
def parse (input : List ℕ) : Option Json :=
  match parseValue (input.length + 1) input with
  | some (value, rest) => if skipBlank rest = [] then some value else none
  | none => none

/-- No value begins with a slash. -/
theorem parse_slash (rest : List ℕ) : parse (47 :: rest) = none := by
  have hliteral : parseLiteral (47 :: rest) = none := by
    simp [parseLiteral, chars, stripPrefix, parseNumber, parseSign, parseInteger, isDigit]
  simp [parse, parseValue, skipBlank, isBlank, hliteral]

/-! ### Numbers -/

/-- What may follow a value: the end, or a unit that continues no number. -/
def Delimited (rest : List ℕ) : Prop :=
  ∀ u us, rest = u :: us → isDigit u = false ∧ u ≠ 46 ∧ u ≠ 101 ∧ u ≠ 69

theorem delimited_cons {u : ℕ} {us : List ℕ} (hd : isDigit u = false) (h46 : u ≠ 46)
    (h101 : u ≠ 101) (h69 : u ≠ 69) : Delimited (u :: us) := by
  rintro v vs ⟨⟩
  exact ⟨hd, h46, h101, h69⟩

theorem takeWhile_digits {ds rest : List ℕ} (hd : ∀ u ∈ ds, isDigit u)
    (hr : ∀ u us, rest = u :: us → isDigit u = false) :
    (ds ++ rest).takeWhile isDigit = ds ∧ (ds ++ rest).dropWhile isDigit = rest := by
  have htake : rest.takeWhile isDigit = [] := by
    cases rest with
    | nil => rfl
    | cons u us => simp [hr u us rfl]
  have hdrop : rest.dropWhile isDigit = rest := by
    cases rest with
    | nil => rfl
    | cons u us => simp [hr u us rfl]
  constructor
  · rw [List.takeWhile_append_of_pos hd, htake, List.append_nil]
  · rw [List.dropWhile_append_of_pos hd, hdrop]

theorem parseInteger_digits {ds rest : List ℕ} (hne : ds ≠ []) (hd : ∀ u ∈ ds, isDigit u)
    (h0 : ∀ us, ds = 48 :: us → us = []) (hr : ∀ u us, rest = u :: us → isDigit u = false) :
    parseInteger (ds ++ rest) = some (ds, rest) := by
  cases ds with
  | nil => exact absurd rfl hne
  | cons u us =>
    rw [List.cons_append, parseInteger]
    split
    · next h =>
      subst h
      obtain rfl := h0 us rfl
      rfl
    · obtain ⟨htake, hdrop⟩ := takeWhile_digits (fun v hv => hd v (List.mem_cons_of_mem u hv)) hr
      rw [if_pos (hd u List.mem_cons_self), htake, hdrop]

theorem parseFraction_text {fs rest : List ℕ} (hd : ∀ u ∈ fs, isDigit u)
    (hr : ∀ u us, rest = u :: us → isDigit u = false ∧ u ≠ 46) :
    parseFraction (NumberLiteral.fractionText fs ++ rest) = (fs, rest) := by
  unfold NumberLiteral.fractionText
  split
  · next h =>
    subst h
    cases rest with
    | nil => rfl
    | cons u us => simp [parseFraction, (hr u us rfl).2]
  · next h =>
    obtain ⟨htake, hdrop⟩ := takeWhile_digits hd fun u us h => (hr u us h).1
    rw [List.cons_append, parseFraction, htake, hdrop, if_pos ⟨rfl, h⟩]

theorem parseExponent_none {rest : List ℕ} (hr : Delimited rest) :
    parseExponent rest = (none, rest) := by
  cases rest with
  | nil => rfl
  | cons u us =>
    obtain ⟨-, -, h101, h69⟩ := hr u us rfl
    simp [parseExponent, h101, h69]

theorem parseExponent_text {x : ExponentPart} {rest : List ℕ} (hx : x.Valid)
    (hr : Delimited rest) : parseExponent (x.text ++ rest) = (some x, rest) := by
  obtain ⟨htake, hdrop⟩ := takeWhile_digits hx.digits fun u us h => (hr u us h).1
  have hsign : parseExponentSign (x.sign.toList ++ x.digits ++ rest) =
      (x.sign, x.digits ++ rest) := by
    cases hs : x.sign with
    | none =>
      cases hds : x.digits with
      | nil => exact absurd hds hx.digits_ne_nil
      | cons u us =>
        have hdigit := hx.digits u (by simp [hds])
        simp only [isDigit, decide_eq_true_eq] at hdigit
        have h43 : u ≠ 43 := by omega
        have h45 : u ≠ 45 := by omega
        simp [parseExponentSign, h43, h45]
    | some s =>
      have := hx.sign s (by simp [hs])
      simp [parseExponentSign, this]
  rw [ExponentPart.text, List.cons_append, parseExponent, hsign]
  simp only [htake, hdrop]
  rw [if_pos ⟨hx.marker, hx.digits_ne_nil⟩]

theorem parseNumber_text {n : NumberLiteral} {rest : List ℕ} (hn : n.Valid)
    (hr : Delimited rest) : parseNumber (n.text ++ rest) = some (n, rest) := by
  obtain ⟨negative, integer, fraction, exponent⟩ := n
  obtain ⟨hne, hint, hzero, hfrac, hexp⟩ := hn
  simp only at hne hint hzero hfrac hexp
  set tail := (exponent.map ExponentPart.text).getD [] ++ rest with htail
  have hexponent : parseExponent tail = (exponent, rest) := by
    cases exponent with
    | none => exact parseExponent_none hr
    | some x => exact parseExponent_text (hexp x rfl) hr
  have hstop : ∀ u us, tail = u :: us → isDigit u = false ∧ u ≠ 46 := by
    intro u us h
    cases exponent with
    | none => exact ⟨(hr u us h).1, (hr u us h).2.1⟩
    | some x =>
      simp only [htail, Option.map_some, Option.getD_some, ExponentPart.text, List.cons_append,
        List.cons.injEq] at h
      rcases (hexp x rfl).marker with hm | hm <;> rw [← h.1, hm] <;> decide
  have hfraction := parseFraction_text hfrac hstop
  have hfracstop : ∀ u us, NumberLiteral.fractionText fraction ++ tail = u :: us →
      isDigit u = false := by
    intro u us h
    unfold NumberLiteral.fractionText at h
    split at h
    · exact (hstop u us h).1
    · obtain ⟨rfl, -⟩ := List.cons.inj h
      rfl
  have hinteger := parseInteger_digits hne hint hzero hfracstop
  have hsign : parseSign ((if negative then [45] else []) ++
      (integer ++ (NumberLiteral.fractionText fraction ++ tail))) =
      (negative, integer ++ (NumberLiteral.fractionText fraction ++ tail)) := by
    cases negative with
    | true => rfl
    | false =>
      cases integer with
      | nil => exact absurd rfl hne
      | cons u us =>
        have hdigit := hint u List.mem_cons_self
        simp only [isDigit, decide_eq_true_eq] at hdigit
        have h45 : u ≠ 45 := by omega
        simp [parseSign, h45]
  simp only [NumberLiteral.text, List.append_assoc, parseNumber, ← htail]
  rw [hsign]
  simp [hinteger, hfraction, hexponent]

end Json
end TcdOran.Lib
