import MicroSentinel.Config

/-! `ParseJson` (`json.cpp`, the anonymous `Parser`): a recursive-descent parser over the
request body, one byte per character, with `pos_` the rest of the input. A failure is the
text it leaves in `error`; the recursion of `ParseValue` through arrays and objects runs on
fuel, of which twice the input length plus one is always enough. Beside it, the RFC 8259
grammar of a JSON text. -/
namespace MicroSentinel

/-- `JsonValue`; an object's `unordered_map` is kept in insertion order. -/
inductive JsonValue where
  | null
  | bool (value : Bool)
  | number (value : ℚ)
  | string (value : String)
  | array (items : List JsonValue)
  | object (members : List (String × JsonValue))

namespace Json

/-- What a parse leaves: the text written to `error`, or the value and the rest of the
input. -/
abbrev Parsed := Except String (JsonValue × List Char)

/-- `SkipWhitespace`: `std::isspace`, so vertical tab and form feed too. -/
def skipWhitespace (input : List Char) : List Char := input.dropWhile isSpace

/-- The one-character escapes of `ParseRawString`. -/
def unescape : Char → Option Char
  | '"' => some '"'
  | '\\' => some '\\'
  | '/' => some '/'
  | 'b' => some (Char.ofNat 8)
  | 'f' => some (Char.ofNat 12)
  | 'n' => some '\n'
  | 'r' => some '\r'
  | 't' => some '\t'
  | _ => none

/-- The loop of `ParseRawString` after the opening quote: the characters it appends to
`out`, and the input after the closing quote. Any other character is copied as it is. -/
def rawStringBody : List Char → Except String (List Char × List Char)
  | [] => .error "Unterminated string literal"
  | c :: rest =>
    if c = '"' then .ok ([], rest)
    else if c = '\\' then
      match rest with
      | [] => .error "Invalid escape sequence"
      | esc :: rest =>
        match unescape esc with
        | some out => (rawStringBody rest).map fun r => (out :: r.1, r.2)
        | none => .error "Unsupported escape sequence"
    else (rawStringBody rest).map fun r => (c :: r.1, r.2)

def startsWithDigit : List Char → Bool
  | c :: _ => c.isDigit
  | [] => false

/-- The digits at the front. -/
def digitRun (s : List Char) : Nat := (s.takeWhile Char.isDigit).length

/-- The integer part of `ParseNumber` at a `-` or a digit: the characters read after it. -/
def integerPart (input : List Char) : Except String Nat :=
  let sign := if input.head? = some '-' then 1 else 0
  match input.drop sign with
  | [] => .error "Unexpected end in number"
  | c :: rest =>
    if c = '0' then pure (sign + 1)
    else if c.isDigit then pure (sign + 1 + digitRun rest)
    else .error "Invalid number"

/-- The fraction of `ParseNumber`, `read` characters in. -/
def fractionPart (input : List Char) (read : Nat) : Except String Nat :=
  if (input.drop read).head? = some '.' then
    if startsWithDigit (input.drop (read + 1)) then
      pure (read + 1 + digitRun (input.drop (read + 1)))
    else .error "Invalid fractional part"
  else pure read

/-- The exponent of `ParseNumber`, `read` characters in. -/
def exponentPart (input : List Char) (read : Nat) : Except String Nat :=
  if (input.drop read).head? = some 'e' ∨ (input.drop read).head? = some 'E' then
    let read := if (input.drop (read + 1)).head? = some '+' ∨
      (input.drop (read + 1)).head? = some '-' then read + 2 else read + 1
    if startsWithDigit (input.drop read) then pure (read + digitRun (input.drop read))
    else .error "Invalid exponent"
  else pure read

/-- `ParseNumber`: the characters scanned go to `std::stod`. -/
def parseNumber (input : List Char) : Parsed := do
  let read ← integerPart input
  let read ← fractionPart input read
  let read ← exponentPart input read
  match stod (String.mk (input.take read)) with
  | some (x, _) => pure (.number x, input.drop read)
  | none => .error "Failed to parse number"

def parseNull (input : List Char) : Parsed :=
  if "null".toList.isPrefixOf input then .ok (.null, input.drop 4)
  else .error "Invalid token (expected null)"

def parseBool (input : List Char) : Parsed :=
  if "true".toList.isPrefixOf input then .ok (.bool true, input.drop 4)
  else if "false".toList.isPrefixOf input then .ok (.bool false, input.drop 5)
  else .error "Invalid boolean literal"

/-- `Object().emplace(key, child)`: a name already present keeps its first value. -/
def emplace (members : List (String × JsonValue)) (key : String) (v : JsonValue) :
    List (String × JsonValue) :=
  if members.any (·.1 = key) then members else members ++ [(key, v)]

mutual

/-- `ParseValue`, dispatching on the first character after white space. Out of fuel it
fails with an empty text, which no path of the source writes. -/
def parseValue : Nat → List Char → Parsed
  | 0, _ => .error ""
  | fuel + 1, input =>
    match skipWhitespace input with
    | [] => .error "Unexpected end of input"
    | c :: rest =>
      if c = 'n' then parseNull (c :: rest)
      else if c = 't' ∨ c = 'f' then parseBool (c :: rest)
      else if c = '"' then (rawStringBody rest).map fun r => (.string (String.mk r.1), r.2)
      else if c = '[' then
        match skipWhitespace rest with
        | ']' :: after => .ok (.array [], after)
        | items => parseElements fuel [] items
      else if c = '{' then
        match skipWhitespace rest with
        | '}' :: after => .ok (.object [], after)
        | members => parseMembers fuel [] members
      else if c = '-' ∨ c.isDigit then parseNumber (c :: rest)
      else .error "Unexpected token"

/-- The loop of `ParseArray`, with the elements read so far. -/
def parseElements : Nat → List JsonValue → List Char → Parsed
  | 0, _, _ => .error ""
  | _ + 1, _, [] => .error "Unterminated array"
  | fuel + 1, items, c :: input =>
    match parseValue fuel (c :: input) with
    | .error e => .error e
    | .ok (v, rest) =>
      match skipWhitespace rest with
      | [] => .error "Unterminated array"
      | d :: after =>
        if d = ']' then .ok (.array (items ++ [v]), after)
        else if d ≠ ',' then .error "Expected ',' or ']' in array"
        else parseElements fuel (items ++ [v]) (skipWhitespace after)

/-- The loop of `ParseObject`, with the members read so far. -/
def parseMembers : Nat → List (String × JsonValue) → List Char → Parsed
  | 0, _, _ => .error ""
  | _ + 1, _, [] => .error "Unterminated object"
  | fuel + 1, members, c :: input =>
    if c ≠ '"' then .error "Expected string key"
    else match rawStringBody input with
      | .error _ => .error "Expected string key"
      | .ok (key, rest) =>
        match skipWhitespace rest with
        | ':' :: rest =>
          match parseValue fuel (skipWhitespace rest) with
          | .error e => .error e
          | .ok (v, rest) =>
            let members := emplace members (String.mk key) v
            match skipWhitespace rest with
            | [] => .error "Unterminated object"
            | d :: after =>
              if d = '}' then .ok (.object members, after)
              else if d ≠ ',' then .error "Expected ',' or '\x7d' in object"
              else parseMembers fuel members (skipWhitespace after)
        | _ => .error "Expected ':' after key"

end

/-- `ParseJson(input, out, error)`: the value stored in `out` when it returns true, `none`
when it returns false, and `error` after the call. A value followed by more than white
space fails without touching `error`. -/
def parseJson (input : String) (error : String) : Option JsonValue × String :=
  match parseValue (2 * input.length + 1) (skipWhitespace input.toList) with
  | .error e => (none, e)
  | .ok (v, rest) => if skipWhitespace rest = [] then (some v, error) else (none, error)

/-! ### Fuel

The source recurses without fuel: twice the input's length plus one is always enough, so the
model's out-of-fuel failure never shows. -/

/-- What a step of the parser gives when its fuel is enough: a failure writes a non-empty
text, and a value leaves less input than the step started with. -/
def Reads {α : Type} (input : List Char) : Except String (α × List Char) → Prop
  | .error e => e ≠ ""
  | .ok (_, rest) => rest.length < input.length

/-- The same for a scan of `ParseNumber` that starts `read` characters in: it fails with a
text, or ends no earlier. -/
def Scans (read : Nat) : Except String Nat → Prop
  | .error e => e ≠ ""
  | .ok r => read ≤ r

section
variable {α β : Type} {input : List Char}
@[simp] theorem reads_error (e : String) :
    Reads input (.error e : Except String (α × List Char)) ↔ e ≠ "" := Iff.rfl

@[simp] theorem reads_pure (v : α) (rest : List Char) :
    Reads input (pure (v, rest)) ↔ rest.length < input.length := Iff.rfl

@[simp] theorem reads_ok (v : α) (rest : List Char) :
    Reads input (.ok (v, rest)) ↔ rest.length < input.length := Iff.rfl

@[simp] theorem scans_error (read : Nat) (e : String) :
    Scans read (.error e) ↔ e ≠ "" := Iff.rfl

@[simp] theorem scans_pure (read r : Nat) : Scans read (pure r) ↔ read ≤ r := Iff.rfl

theorem Reads.mono {input' : List Char} {r : Except String (α × List Char)} (h : Reads input r)
    (le : input.length ≤ input'.length) : Reads input' r := by
  match r, h with
  | .error _, h => exact h
  | .ok _, h => exact Nat.lt_of_lt_of_le h le

theorem Reads.map {r : Except String (α × List Char)} (h : Reads input r) (f : α → β) :
    Reads input (r.map fun p => (f p.1, p.2)) := by
  match r, h with
  | .error _, h => exact h
  | .ok _, h => exact h

theorem Scans.bind {read : Nat} {x : Except String Nat} {f : Nat → Except String Nat}
    (hx : Scans read x) (hf : ∀ r, read ≤ r → Scans read (f r)) : Scans read (x >>= f) := by
  match x, hx with
  | .error _, hx => exact hx
  | .ok r, hx => exact hf r hx

theorem Reads.bind {read : Nat} {x : Except String Nat}
    {f : Nat → Except String (α × List Char)}
    (hx : Scans read x) (hf : ∀ r, read ≤ r → Reads input (f r)) : Reads input (x >>= f) := by
  match x, hx with
  | .error _, hx => exact hx
  | .ok r, hx => exact hf r hx
end

theorem skipWhitespace_length_le (input : List Char) :
    (skipWhitespace input).length ≤ input.length :=
  (List.dropWhile_suffix _).length_le

theorem rawStringBody_reads (input : List Char) : Reads input (rawStringBody input) := by
  induction input using rawStringBody.induct with
  | case1 => rw [rawStringBody.eq_1]; simp
  | case2 rest => rw [rawStringBody.eq_def]; simp
  | case3 => rw [rawStringBody.eq_def]; simp
  | case4 esc rest out h _ ih =>
    rw [rawStringBody.eq_3, if_neg (by decide), if_pos rfl, h]
    exact (ih.map _).mono (by simp; omega)
  | case5 esc rest h => rw [rawStringBody.eq_3, if_neg (by decide), if_pos rfl, h]; simp
  | case6 c rest quote escape ih =>
    rw [rawStringBody.eq_def]; simp only [if_neg quote, if_neg escape]
    exact (ih.map _).mono (by simp)

theorem integerPart_scans (input : List Char) : Scans 1 (integerPart input) := by
  unfold integerPart
  dsimp only
  split_ifs <;> split <;> (try split_ifs) <;> simp
  omega

theorem fractionPart_scans (input : List Char) (read : Nat) :
    Scans read (fractionPart input read) := by
  unfold fractionPart; split_ifs <;> simp
  omega

theorem exponentPart_scans (input : List Char) (read : Nat) :
    Scans read (exponentPart input read) := by
  unfold exponentPart; dsimp only; split_ifs <;> simp <;> omega

theorem parseNumber_reads (c : Char) (rest : List Char) :
    Reads (c :: rest) (parseNumber (c :: rest)) := by
  unfold parseNumber
  refine Reads.bind (integerPart_scans _) fun r₁ le₁ =>
    Reads.bind (fractionPart_scans _ r₁) fun r₂ le₂ =>
    Reads.bind (exponentPart_scans _ r₂) fun r₃ le₃ => ?_
  split
  · simp; omega
  · simp

theorem literal_reads {lit input : List Char} {n : Nat} (v : JsonValue) {fallback : Parsed}
    (other : Reads input fallback) (hn : 0 < n ∧ n ≤ lit.length) :
    Reads input (if lit.isPrefixOf input then .ok (v, input.drop n) else fallback) := by
  split_ifs with h
  · have := (List.isPrefixOf_iff_prefix.1 h).length_le
    simp; omega
  · exact other

theorem parseNull_reads (input : List Char) : Reads input (parseNull input) := by
  unfold parseNull
  exact literal_reads .null ((reads_error _).2 (by decide)) ⟨by decide, by decide⟩

theorem parseBool_reads (input : List Char) : Reads input (parseBool input) := by
  unfold parseBool
  exact literal_reads _ (literal_reads _ ((reads_error _).2 (by decide)) ⟨by decide, by decide⟩)
    ⟨by decide, by decide⟩

/-- The three parsing functions read their input at this fuel, given twice its length (and
one more in the loops) below it. -/
structure Enough (fuel : Nat) : Prop where
  value : ∀ input, 2 * input.length < fuel → Reads input (parseValue fuel input)
  elements : ∀ items input, 2 * input.length + 1 < fuel →
    Reads input (parseElements fuel items input)
  members : ∀ members input, 2 * input.length + 1 < fuel →
    Reads input (parseMembers fuel members input)

theorem enough_zero : Enough 0 :=
  ⟨fun _ h => absurd h (Nat.not_lt_zero _), fun _ _ h => absurd h (Nat.not_lt_zero _),
    fun _ _ h => absurd h (Nat.not_lt_zero _)⟩

section
variable {fuel : Nat} (h : Enough fuel)
include h

theorem parseValue_step (input : List Char) (long : 2 * input.length < fuel + 1) :
    Reads input (parseValue (fuel + 1) input) := by
  have skip := skipWhitespace_length_le input
  rw [parseValue]
  split
  · simp
  next c rest hs =>
    rw [hs, List.length_cons] at skip
    have inner := skipWhitespace_length_le rest
    have le : (c :: rest).length ≤ input.length := by simp; omega
    -- one case per branch of the dispatch, tested in the source's order
    by_cases null : c = 'n'
    · rw [if_pos null]; exact (parseNull_reads _).mono le
    rw [if_neg null]
    by_cases bool : c = 't' ∨ c = 'f'
    · rw [if_pos bool]; exact (parseBool_reads _).mono le
    rw [if_neg bool]
    by_cases string : c = '"'
    · rw [if_pos string]
      exact ((rawStringBody_reads rest).map fun l => JsonValue.string (String.mk l)).mono
        (by omega)
    rw [if_neg string]
    by_cases array : c = '['
    · rw [if_pos array]
      split
      next after ha => rw [ha] at inner; simp at inner ⊢; omega
      next => refine (h.elements [] _ ?_).mono ?_ <;> omega
    rw [if_neg array]
    by_cases object : c = '\x7b'
    · rw [if_pos object]
      split
      next after ha => rw [ha] at inner; simp at inner ⊢; omega
      next => refine (h.members [] _ ?_).mono ?_ <;> omega
    rw [if_neg object]
    split_ifs
    · exact (parseNumber_reads c rest).mono le
    · simp

theorem parseElements_step (items : List JsonValue) (input : List Char)
    (long : 2 * input.length + 1 < fuel + 1) :
    Reads input (parseElements (fuel + 1) items input) := by
  match input with
  | [] => simp [parseElements]
  | c :: input =>
    rw [List.length_cons] at long
    have value := h.value (c :: input) (by simp; omega)
    rw [parseElements]
    split
    next e he => rw [he] at value; exact value
    next v rest hv =>
      rw [hv] at value
      simp only [reads_ok, List.length_cons] at value
      split
      · simp
      next d after hs =>
        have skip := skipWhitespace_length_le rest
        have skip' := skipWhitespace_length_le after
        rw [hs, List.length_cons] at skip
        split_ifs
        · simp; omega
        · simp
        · refine (h.elements _ _ ?_).mono ?_
          · omega
          · simp; omega

theorem parseMembers_step (members : List (String × JsonValue)) (input : List Char)
    (long : 2 * input.length + 1 < fuel + 1) :
    Reads input (parseMembers (fuel + 1) members input) := by
  match input with
  | [] => simp [parseMembers]
  | c :: input =>
    rw [List.length_cons] at long
    rw [parseMembers]
    split_ifs
    · simp
    split
    · simp
    next key rest hk =>
      have key := rawStringBody_reads input
      rw [hk, reads_ok] at key
      have skip := skipWhitespace_length_le rest
      split
      next rest' hs =>
        rw [hs, List.length_cons] at skip
        have skip' := skipWhitespace_length_le rest'
        have value := h.value (skipWhitespace rest') (by omega)
        split
        next e he => rw [he] at value; exact value
        next v rest'' hv =>
          rw [hv, reads_ok] at value
          split
          · simp
          next d after hd =>
            have skip'' := skipWhitespace_length_le rest''
            have skip''' := skipWhitespace_length_le after
            rw [hd, List.length_cons] at skip''
            split_ifs
            · simp; omega
            · simp
            · refine (h.members _ _ ?_).mono ?_
              · omega
              · simp; omega
      · simp

end

theorem Enough.succ {fuel : Nat} (h : Enough fuel) : Enough (fuel + 1) :=
  ⟨parseValue_step h, parseElements_step h, parseMembers_step h⟩

theorem enough : ∀ fuel, Enough fuel
  | 0 => enough_zero
  | fuel + 1 => (enough fuel).succ

theorem parseJson_error (input error : String) :
    (parseJson input error).2 = error ∨ (parseJson input error).2 ≠ "" := by
  have skip := skipWhitespace_length_le input.toList
  simp only [String.length, String.toList] at skip
  have reads := (enough (2 * input.length + 1)).value (skipWhitespace input.toList) (by
    simp only [String.length, String.toList]; omega)
  unfold parseJson
  split
  next e failed => rw [failed] at reads; exact .inr reads
  next => split_ifs <;> exact .inl rfl

end Json

/-! ### The grammar of RFC 8259 -/

namespace Rfc8259

/-- The characters of `ws = *( %x20 / %x09 / %x0A / %x0D )`. -/
def IsWs (c : Char) : Prop := c = ' ' ∨ c = '\t' ∨ c = '\n' ∨ c = '\r'

def Ws (w : List Char) : Prop := ∀ c ∈ w, IsWs c

/-- `unescaped = %x20-21 / %x23-5B / %x5D-10FFFF`. -/
def Unescaped (c : Char) : Prop := 0x20 ≤ c.toNat ∧ c ≠ '"' ∧ c ≠ '\\'

/-- `HEXDIG`, either case. -/
def IsHexDigit (c : Char) : Prop := c.isDigit ∨ ('a' ≤ c ∧ c ≤ 'f') ∨ ('A' ≤ c ∧ c ≤ 'F')

/-- The `char`s of a string: unescaped characters, the two-character escapes and
`\u` with four hexadecimal digits. -/
inductive Chars : List Char → Prop
  | nil : Chars []
  | unescaped {c t} : Unescaped c → Chars t → Chars (c :: t)
  | escape {e t} : e ∈ ['"', '\\', '/', 'b', 'f', 'n', 'r', 't'] → Chars t →
      Chars ('\\' :: e :: t)
  | unicode {a b c d t} : IsHexDigit a → IsHexDigit b → IsHexDigit c → IsHexDigit d →
      Chars t → Chars ('\\' :: 'u' :: a :: b :: c :: d :: t)

/-- `string = quotation-mark *char quotation-mark`. -/
def Str (s : List Char) : Prop := ∃ t, s = '"' :: t ++ ['"'] ∧ Chars t

/-- `1*DIGIT`. -/
def Digits (d : List Char) : Prop := d ≠ [] ∧ ∀ c ∈ d, c.isDigit

/-- `int = zero / ( digit1-9 *DIGIT )`. -/
def IntPart (i : List Char) : Prop :=
  i = ['0'] ∨ ∃ c d, i = c :: d ∧ c.isDigit ∧ c ≠ '0' ∧ ∀ x ∈ d, x.isDigit

/-- `number = [ minus ] int [ frac ] [ exp ]`. -/
def Number (s : List Char) : Prop :=
  ∃ m i f e, s = m ++ i ++ f ++ e ∧ (m = [] ∨ m = ['-']) ∧ IntPart i ∧
    (f = [] ∨ ∃ d, f = '.' :: d ∧ Digits d) ∧
    (e = [] ∨ ∃ x sign d, e = x :: sign ++ d ∧ (x = 'e' ∨ x = 'E') ∧
      (sign = [] ∨ sign = ['-'] ∨ sign = ['+']) ∧ Digits d)

inductive Kind where
  | value
  | elements
  | members

/-- `value`, `value *( value-separator value )` and `member *( value-separator member )`,
each with the white space of the structural characters inside it. -/
inductive Derives : Kind → List Char → Prop
  | false_ : Derives .value "false".toList
  | null : Derives .value "null".toList
  | true_ : Derives .value "true".toList
  | number {s} : Number s → Derives .value s
  | string {s} : Str s → Derives .value s
  | emptyArray {w₁ w₂ w₃} : Ws w₁ → Ws w₂ → Ws w₃ →
      Derives .value (w₁ ++ '[' :: w₂ ++ ']' :: w₃)
  | array {w₁ w₂ es w₃ w₄} : Ws w₁ → Ws w₂ → Derives .elements es → Ws w₃ → Ws w₄ →
      Derives .value (w₁ ++ '[' :: w₂ ++ es ++ w₃ ++ ']' :: w₄)
  | emptyObject {w₁ w₂ w₃} : Ws w₁ → Ws w₂ → Ws w₃ →
      Derives .value (w₁ ++ '{' :: w₂ ++ '}' :: w₃)
  | object {w₁ w₂ ms w₃ w₄} : Ws w₁ → Ws w₂ → Derives .members ms → Ws w₃ → Ws w₄ →
      Derives .value (w₁ ++ '{' :: w₂ ++ ms ++ w₃ ++ '}' :: w₄)
  | element {v} : Derives .value v → Derives .elements v
  | elements {v w₁ w₂ es} : Derives .value v → Ws w₁ → Ws w₂ → Derives .elements es →
      Derives .elements (v ++ w₁ ++ ',' :: w₂ ++ es)
  | member {k w₁ w₂ v} : Str k → Ws w₁ → Ws w₂ → Derives .value v →
      Derives .members (k ++ w₁ ++ ':' :: w₂ ++ v)
  | members {k w₁ w₂ v w₃ w₄ ms} : Str k → Ws w₁ → Ws w₂ → Derives .value v → Ws w₃ →
      Ws w₄ → Derives .members ms →
      Derives .members (k ++ w₁ ++ ':' :: w₂ ++ v ++ w₃ ++ ',' :: w₄ ++ ms)

/-- `JSON-text = ws value ws`. -/
def JsonText (s : List Char) : Prop :=
  ∃ w₁ v w₂, s = w₁ ++ v ++ w₂ ∧ Ws w₁ ∧ Derives .value v ∧ Ws w₂

/-! A JSON text holds no control character outside its white space: every `char` of a
string, every piece of a number and every literal lies at or above `%x20`. -/

instance (c : Char) : Decidable (IsWs c) := inferInstanceAs (Decidable (_ ∨ _))

/-- Below `%x20` only white space. -/
def Printable (s : List Char) : Prop := ∀ c ∈ s, c.toNat < 0x20 → IsWs c

instance (s : List Char) : Decidable (Printable s) :=
  inferInstanceAs (Decidable (∀ c ∈ s, _))

@[simp] theorem printable_nil : Printable [] := by simp [Printable]

@[simp] theorem printable_append {s t : List Char} :
    Printable (s ++ t) ↔ Printable s ∧ Printable t := by
  simp only [Printable, List.mem_append, or_imp, forall_and]

@[simp] theorem printable_cons {c : Char} {s : List Char} :
    Printable (c :: s) ↔ (c.toNat < 0x20 → IsWs c) ∧ Printable s := by
  simp only [Printable, List.mem_cons, or_imp, forall_and, forall_eq]

theorem Printable.of_ge {s : List Char} (hs : ∀ c ∈ s, 0x20 ≤ c.toNat) : Printable s :=
  fun c mem low => absurd low (Nat.not_lt.2 (hs c mem))

theorem Ws.printable {w : List Char} (hw : Ws w) : Printable w := fun c mem _ => hw c mem

theorem ge_of_isDigit {c : Char} (h : c.isDigit) : 0x20 ≤ c.toNat := by
  simp only [Char.isDigit, Bool.and_eq_true, decide_eq_true_eq] at h
  exact Nat.le_trans (by decide) h.1

theorem ge_of_isHexDigit {c : Char} (h : IsHexDigit c) : 0x20 ≤ c.toNat := by
  rcases h with h | ⟨h, -⟩ | ⟨h, -⟩
  · exact ge_of_isDigit h
  all_goals exact Nat.le_trans (by decide) h

theorem Chars.printable {t : List Char} (h : Chars t) : ∀ c ∈ t, 0x20 ≤ c.toNat := by
  induction h with
  | nil => simp
  | unescaped hc _ ih => exact List.forall_mem_cons.2 ⟨hc.1, ih⟩
  | escape he _ ih =>
    refine List.forall_mem_cons.2 ⟨by decide, List.forall_mem_cons.2 ⟨?_, ih⟩⟩
    simp only [List.mem_cons, List.mem_singleton, List.not_mem_nil, or_false] at he
    rcases he with rfl | rfl | rfl | rfl | rfl | rfl | rfl | rfl <;> decide
  | unicode ha hb hc hd _ ih =>
    simp only [List.forall_mem_cons]
    exact ⟨by decide, by decide, ge_of_isHexDigit ha, ge_of_isHexDigit hb, ge_of_isHexDigit hc,
      ge_of_isHexDigit hd, ih⟩

theorem Str.printable {s : List Char} (h : Str s) : Printable s := by
  obtain ⟨t, rfl, chars⟩ := h
  simp only [printable_cons, printable_append, Printable.of_ge chars.printable]
  decide

theorem Digits.printable {d : List Char} (h : ∀ c ∈ d, c.isDigit) : Printable d :=
  Printable.of_ge fun c mem => ge_of_isDigit (h c mem)

theorem Number.printable {s : List Char} (h : Number s) : Printable s := by
  obtain ⟨m, i, f, e, rfl, hm, hi, hf, he⟩ := h
  simp only [printable_append]
  refine ⟨⟨⟨?_, ?_⟩, ?_⟩, ?_⟩
  · rcases hm with rfl | rfl <;> decide
  · rcases hi with rfl | ⟨c, d, rfl, hc, -, hd⟩
    · decide
    · exact Printable.of_ge (List.forall_mem_cons.2 ⟨ge_of_isDigit hc, fun x mem =>
        ge_of_isDigit (hd x mem)⟩)
  · rcases hf with rfl | ⟨d, rfl, -, hd⟩
    · exact printable_nil
    · exact printable_cons.2 ⟨by decide, Digits.printable hd⟩
  · rcases he with rfl | ⟨x, sign, d, rfl, hx, hsign, -, hd⟩
    · exact printable_nil
    · refine printable_cons.2 ⟨by rcases hx with rfl | rfl <;> decide,
        printable_append.2 ⟨?_, Digits.printable hd⟩⟩
      rcases hsign with rfl | rfl | rfl <;> decide

theorem Derives.printable {k : Kind} {s : List Char} (h : Derives k s) : Printable s := by
  induction h with
  | false_ | null | true_ => decide
  | number hs => exact hs.printable
  | string hs => exact hs.printable
  | emptyArray h₁ h₂ h₃ | emptyObject h₁ h₂ h₃ =>
    simp only [printable_append, printable_cons, h₁.printable, h₂.printable, h₃.printable,
      and_true, true_and]
    decide
  | array h₁ h₂ _ h₃ h₄ ih | object h₁ h₂ _ h₃ h₄ ih =>
    simp only [printable_append, printable_cons, h₁.printable, h₂.printable, h₃.printable,
      h₄.printable, ih, and_true, true_and]
    decide
  | element _ ih => exact ih
  | elements _ h₁ h₂ _ ihv ihs =>
    simp only [printable_append, printable_cons, h₁.printable, h₂.printable, ihv, ihs, and_true,
      true_and]
    decide
  | member hk h₁ h₂ _ ih =>
    simp only [printable_append, printable_cons, hk.printable, h₁.printable, h₂.printable, ih,
      and_true, true_and]
    decide
  | members hk h₁ h₂ _ h₃ h₄ _ ihv ihs =>
    simp only [printable_append, printable_cons, hk.printable, h₁.printable, h₂.printable,
      h₃.printable, h₄.printable, ihv, ihs, and_true, true_and]
    decide

theorem JsonText.printable {s : List Char} (h : JsonText s) : Printable s := by
  obtain ⟨w₁, v, w₂, rfl, h₁, hv, h₂⟩ := h
  simp only [printable_append, h₁.printable, hv.printable, h₂.printable, and_self]

end Rfc8259

open Json Rfc8259 in
/-- Where `ParseJson` and RFC 8259 part: a `\u` escape is refused, a raw control character in
a string and a vertical tab around a value are accepted, and a second value after the first
fails without a word in `error`. -/
theorem parse_json_not_rfc8259 :
    (JsonText "\"\\u0041\"".toList ∧ (parseJson "\"\\u0041\"" "").1.isNone ∧
      (parseJson "\"\\u0041\"" "").2 = "Unsupported escape sequence") ∧
    (¬ JsonText "\"\x01\"".toList ∧ (parseJson "\"\x01\"" "").1.isSome) ∧
    (¬ JsonText "\x0b0".toList ∧ (parseJson "\x0b0" "").1.isSome) ∧
    ((parseJson "0 0" "").1.isNone ∧ (parseJson "0 0" "").2 = "") := by
  have none : Ws [] := fun _ mem => absurd mem (List.not_mem_nil _)
  refine ⟨⟨⟨[], _, [], by simp, none, .string ⟨['\\', 'u', '0', '0', '4', '1'], rfl,
      .unicode (.inl rfl) (.inl rfl) (.inl rfl) (.inl rfl) .nil⟩, none⟩, rfl, rfl⟩,
    ⟨fun text => absurd text.printable (by decide), rfl⟩,
    ⟨fun text => absurd text.printable (by decide), rfl⟩, rfl, rfl⟩

end MicroSentinel
