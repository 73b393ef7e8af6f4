import MicroSentinel.Json

/-! `Parser` (`json.cpp`) with its cursor: `pos_` is a position in the request body, and each
place the source indexes `input_[pos_]` is a read `charAt`. A read at or past the end would be
undefined, so the model stops there with `pastEnd`. The loops of `SkipWhitespace`,
`ParseRawString` and `ParseNumber` recurse on what is left of the input after `pos_`, which is
why each of them ends; the descent through arrays and objects runs on the fuel of the list
model `Json.parseValue`, and `view` takes every result to that model's, the rest of the input
after the position reached. -/
namespace MicroSentinel

namespace Json.Parser

/-- How a call ends other than by returning true: it returns false, with the text it wrote to
`error_` if it wrote one; it reads `input_[pos_]` at or past the end; or the fuel runs out. -/
inductive Stop where
  | refused (error : Option String)
  | pastEnd (pos : Nat)
  | outOfFuel
  deriving DecidableEq, Repr

/-- `error_ = error; return false;` -/
def refuse {α : Type} (error : String) : Except Stop α := .error (.refused (some error))

/-- `input_[pos_]`. -/
def charAt (input : List Char) (pos : Nat) : Except Stop Char :=
  match input[pos]? with
  | some c => .ok c
  | none => .error (.pastEnd pos)

/-- `pos_ < input_.size() && p(input_[pos_])`: the read happens only inside the input. -/
def peekIs (input : List Char) (pos : Nat) (p : Char → Bool) : Except Stop Bool :=
  if pos < input.length then p <$> charAt input pos else pure false

/-- `while (pos_ < input_.size() && p(input_[pos_])) ++pos_;` -/
def skipWhile (p : Char → Bool) (input : List Char) (pos : Nat) : Except Stop Nat :=
  if pos < input.length then
    match charAt input pos with
    | .ok c => if p c then skipWhile p input (pos + 1) else pure pos
    | .error s => .error s
  else pure pos
termination_by input.length - pos

/-- `SkipWhitespace`. -/
def skipWhitespace (input : List Char) (pos : Nat) : Except Stop Nat :=
  skipWhile isSpace input pos

/-- The loop of `ParseRawString` from `pos_`, with `out` so far. -/
def rawStringLoop (input : List Char) (out : List Char) (pos : Nat) :
    Except Stop (List Char × Nat) :=
  if pos < input.length then
    match charAt input pos with
    | .error s => .error s
    | .ok c =>
      if c = '"' then pure (out, pos + 1)
      else if c = '\\' then
        if pos + 1 < input.length then
          match charAt input (pos + 1) with
          | .error s => .error s
          | .ok esc =>
            match unescape esc with
            | some e => rawStringLoop input (out ++ [e]) (pos + 2)
            | none => refuse "Unsupported escape sequence"
        else refuse "Invalid escape sequence"
      else rawStringLoop input (out ++ [c]) (pos + 1)
  else refuse "Unterminated string literal"
termination_by input.length - pos

/-- `ParseRawString`: the opening quote, which it returns false without a text when missing,
then the loop. -/
def parseRawString (input : List Char) (pos : Nat) : Except Stop (List Char × Nat) := do
  let c ← charAt input pos
  if c ≠ '"' then .error (.refused none) else rawStringLoop input [] (pos + 1)

def parseString (input : List Char) (pos : Nat) : Except Stop (JsonValue × Nat) := do
  let (out, pos) ← parseRawString input pos
  pure (.string (String.mk out), pos)

/-- `input_.compare(pos_, 4, "null")` compares what is left, so no read passes the end. -/
def parseNull (input : List Char) (pos : Nat) : Except Stop (JsonValue × Nat) :=
  if "null".toList.isPrefixOf (input.drop pos) then pure (.null, pos + 4)
  else refuse "Invalid token (expected null)"

def parseBool (input : List Char) (pos : Nat) : Except Stop (JsonValue × Nat) :=
  if "true".toList.isPrefixOf (input.drop pos) then pure (.bool true, pos + 4)
  else if "false".toList.isPrefixOf (input.drop pos) then pure (.bool false, pos + 5)
  else refuse "Invalid boolean literal"

/-- The integer part of `ParseNumber` from `start`, at a `-` or a digit: where it ends. -/
def integerPart (input : List Char) (start : Nat) : Except Stop Nat := do
  let c ← charAt input start
  let pos := if c = '-' then start + 1 else start
  if pos < input.length then
    let c ← charAt input pos
    if c = '0' then pure (pos + 1)
    else if c.isDigit then skipWhile Char.isDigit input pos
    else refuse "Invalid number"
  else refuse "Unexpected end in number"

/-- `if (pos_ >= input_.size() || !std::isdigit(input_[pos_]))` refusing with `error`, then
the loop over the digits: what `ParseNumber` requires after the point and in the exponent. -/
def requireDigits (input : List Char) (pos : Nat) (error : String) : Except Stop Nat := do
  if ← peekIs input pos Char.isDigit then skipWhile Char.isDigit input pos else refuse error

/-- The fraction of `ParseNumber` from `pos_`. -/
def fractionPart (input : List Char) (pos : Nat) : Except Stop Nat := do
  if ← peekIs input pos (· == '.') then requireDigits input (pos + 1) "Invalid fractional part"
  else pure pos

/-- The exponent of `ParseNumber` from `pos_`. -/
def exponentPart (input : List Char) (pos : Nat) : Except Stop Nat := do
  if ← peekIs input pos (fun c => c == 'e' || c == 'E') then
    let sign ← peekIs input (pos + 1) (fun c => c == '+' || c == '-')
    requireDigits input (if sign then pos + 2 else pos + 1) "Invalid exponent"
  else pure pos

/-- `ParseNumber` from `start`: the characters scanned go to `std::stod`. -/
def parseNumber (input : List Char) (start : Nat) : Except Stop (JsonValue × Nat) := do
  let pos ← integerPart input start
  let pos ← fractionPart input pos
  let pos ← exponentPart input pos
  match stod (String.mk ((input.drop start).take (pos - start))) with
  | some (x, _) => pure (.number x, pos)
  | none => refuse "Failed to parse number"

/-- The start of `ParseArray` and `ParseObject`: the check of `opening`, white space, and
`true` with the position after it when `closing` follows at once. -/
def openContainer (input : List Char) (opening closing : Char) (pos : Nat) :
    Except Stop (Bool × Nat) := do
  let c ← charAt input pos
  if c ≠ opening then .error (.refused none) else do
    let pos ← skipWhitespace input (pos + 1)
    if ← peekIs input pos (· == closing) then pure (true, pos + 1) else pure (false, pos)

mutual

/-- `ParseValue`, dispatching on `input_[pos_]` after white space. -/
def parseValue (input : List Char) : Nat → Nat → Except Stop (JsonValue × Nat)
  | 0, _ => .error .outOfFuel
  | fuel + 1, pos => do
    let pos ← skipWhitespace input pos
    if pos < input.length then
      let c ← charAt input pos
      if c = 'n' then parseNull input pos
      else if c = 't' ∨ c = 'f' then parseBool input pos
      else if c = '"' then parseString input pos
      else if c = '[' then
        let (empty, pos) ← openContainer input '[' ']' pos
        if empty then pure (.array [], pos) else parseElements input fuel [] pos
      else if c = '\x7b' then
        let (empty, pos) ← openContainer input '\x7b' '\x7d' pos
        if empty then pure (.object [], pos) else parseMembers input fuel [] pos
      else if c = '-' ∨ c.isDigit then parseNumber input pos
      else refuse "Unexpected token"
    else refuse "Unexpected end of input"

/-- The loop of `ParseArray`, with the elements so far. -/
def parseElements (input : List Char) :
    Nat → List JsonValue → Nat → Except Stop (JsonValue × Nat)
  | 0, _, _ => .error .outOfFuel
  | fuel + 1, items, pos =>
    if pos < input.length then do
      let (v, pos) ← parseValue input fuel pos
      let pos ← skipWhitespace input pos
      if pos < input.length then
        let c ← charAt input pos
        if c = ']' then pure (.array (items ++ [v]), pos + 1)
        else if c ≠ ',' then refuse "Expected ',' or ']' in array"
        else
          let pos ← skipWhitespace input (pos + 1)
          parseElements input fuel (items ++ [v]) pos
      else refuse "Unterminated array"
    else refuse "Unterminated array"

/-- The loop of `ParseObject`, with the members so far; a key `ParseRawString` refuses is
reported as `Expected string key`. -/
def parseMembers (input : List Char) :
    Nat → List (String × JsonValue) → Nat → Except Stop (JsonValue × Nat)
  | 0, _, _ => .error .outOfFuel
  | fuel + 1, members, pos =>
    if pos < input.length then
      match parseRawString input pos with
      | .error (.refused _) => refuse "Expected string key"
      | .error s => .error s
      | .ok (key, pos) => do
        let pos ← skipWhitespace input pos
        if ← peekIs input pos (· == ':') then
          let pos ← skipWhitespace input (pos + 1)
          let (v, pos) ← parseValue input fuel pos
          let members := emplace members (String.mk key) v
          let pos ← skipWhitespace input pos
          if pos < input.length then
            let c ← charAt input pos
            if c = '\x7d' then pure (.object members, pos + 1)
            else if c ≠ ',' then refuse "Expected ',' or '\x7d' in object"
            else
              let pos ← skipWhitespace input (pos + 1)
              parseMembers input fuel members pos
          else refuse "Unterminated object"
        else refuse "Expected ':' after key"
    else refuse "Unterminated object"

end

/-- `Parser::Parse`: white space, a value, white space, and whether that reached the end. -/
def parse (input : List Char) (fuel : Nat) : Except Stop (JsonValue × Bool) := do
  let pos ← skipWhitespace input 0
  let (v, pos) ← parseValue input fuel pos
  let pos ← skipWhitespace input pos
  pure (v, pos == input.length)

/-- `ParseJson`, on the fuel the list model gives it. -/
def parseJson (input : String) : Except Stop (JsonValue × Bool) :=
  parse input.toList (2 * input.length + 1)

/-! ### The list model's view -/

/-- The text the list model gives a stop: the one written to `error_`, and the empty text for
the stops the source never comes to. -/
def Stop.text : Stop → String
  | .refused (some e) => e
  | _ => ""

/-- The list model's view of a call's result: the rest of the input after the position. -/
def view {α : Type} (input : List Char) :
    Except Stop (α × Nat) → Except String (α × List Char)
  | .ok (v, pos) => .ok (v, input.drop pos)
  | .error s => .error s.text

section
variable {ε α β : Type} {input : List Char}

@[simp] theorem view_ok (v : α) (pos : Nat) :
    view input (.ok (v, pos) : Except Stop (α × Nat)) = .ok (v, input.drop pos) := rfl

@[simp] theorem view_error (s : Stop) :
    view input (.error s : Except Stop (α × Nat)) = .error s.text := rfl

@[simp] theorem view_refuse (e : String) :
    view input (refuse e : Except Stop (α × Nat)) = .error e := rfl

@[simp] theorem pure_eq_ok (a : α) : (pure a : Except ε α) = .ok a := rfl

@[simp] theorem ok_bind (a : α) (f : α → Except ε β) : (Except.ok a >>= f) = f a := rfl

@[simp] theorem error_bind (e : ε) (f : α → Except ε β) : (Except.error e >>= f) = .error e :=
  rfl

theorem drop_takeWhile_length (p : α → Bool) (l : List α) :
    l.drop (l.takeWhile p).length = l.dropWhile p :=
  calc l.drop (l.takeWhile p).length
      = (l.takeWhile p ++ l.dropWhile p).drop (l.takeWhile p).length := by
        rw [List.takeWhile_append_dropWhile]
    _ = l.dropWhile p := List.drop_left _ _
end

section
variable {input rest : List Char} {pos : Nat} {c : Char}

theorem lt_of_drop_eq_cons (h : input.drop pos = c :: rest) : pos < input.length := by
  by_contra ge
  rw [List.drop_eq_nil_iff.2 (Nat.le_of_not_lt ge)] at h
  cases h

theorem not_lt_of_drop_eq_nil (h : input.drop pos = []) : ¬pos < input.length :=
  Nat.not_lt.2 (List.drop_eq_nil_iff.1 h)

theorem charAt_of_drop (h : input.drop pos = c :: rest) : charAt input pos = .ok c := by
  have lt := lt_of_drop_eq_cons h
  rw [List.drop_eq_getElem_cons lt, List.cons.injEq] at h
  simp [charAt, List.getElem?_eq_getElem lt, h.1]

theorem drop_succ_of_drop (h : input.drop pos = c :: rest) : input.drop (pos + 1) = rest := by
  rw [← List.drop_drop, h]
  rfl

theorem peekIs_of_drop_cons (p : Char → Bool) (h : input.drop pos = c :: rest) :
    peekIs input pos p = .ok (p c) := by
  rw [peekIs, if_pos (lt_of_drop_eq_cons h), charAt_of_drop h]
  rfl

theorem peekIs_of_drop_nil (p : Char → Bool) (h : input.drop pos = []) :
    peekIs input pos p = .ok false := by
  rw [peekIs, if_neg (not_lt_of_drop_eq_nil h)]
  rfl
end

theorem skipWhile_eq (p : Char → Bool) (input : List Char) (pos : Nat) :
    skipWhile p input pos = .ok (pos + ((input.drop pos).takeWhile p).length) := by
  cases h : input.drop pos with
  | nil => rw [skipWhile, if_neg (not_lt_of_drop_eq_nil h)]; rfl
  | cons c rest =>
    rw [skipWhile, if_pos (lt_of_drop_eq_cons h), charAt_of_drop h]
    dsimp only
    by_cases pc : p c
    · rw [if_pos pc, skipWhile_eq p input (pos + 1), drop_succ_of_drop h,
        List.takeWhile_cons_of_pos pc, List.length_cons]
      congr 1
      omega
    · rw [if_neg pc, List.takeWhile_cons_of_neg pc]
      rfl
termination_by input.length - pos
decreasing_by have := lt_of_drop_eq_cons h; omega

theorem skipWhitespace_spec (input : List Char) (pos : Nat) :
    ∃ q, skipWhitespace input pos = .ok q ∧
      input.drop q = Json.skipWhitespace (input.drop pos) :=
  ⟨_, skipWhile_eq isSpace input pos, by rw [← List.drop_drop, drop_takeWhile_length]; rfl⟩

theorem view_rawStringLoop (input out : List Char) (pos : Nat) :
    view input (rawStringLoop input out pos) =
      (rawStringBody (input.drop pos)).map fun r => (out ++ r.1, r.2) := by
  cases h : input.drop pos with
  | nil => rw [rawStringLoop, if_neg (not_lt_of_drop_eq_nil h)]; rfl
  | cons c rest =>
    have next := drop_succ_of_drop h
    rw [rawStringLoop, if_pos (lt_of_drop_eq_cons h), charAt_of_drop h, rawStringBody.eq_def]
    dsimp only
    by_cases quote : c = '"'
    · simp [quote, next, Except.map]
    by_cases escape : c = '\\'
    · simp only [if_neg quote, if_pos escape]
      cases rest with
      | nil => rw [if_neg (not_lt_of_drop_eq_nil next)]; rfl
      | cons esc rest =>
        rw [if_pos (lt_of_drop_eq_cons next), charAt_of_drop next]
        dsimp only
        cases ue : unescape esc with
        | none => rfl
        | some e =>
          dsimp only
          rw [view_rawStringLoop input (out ++ [e]) (pos + 2), drop_succ_of_drop next]
          rcases rawStringBody rest with _ | ⟨r, after⟩ <;> simp [Except.map]
    · simp only [if_neg quote, if_neg escape]
      rw [view_rawStringLoop input (out ++ [c]) (pos + 1), next]
      rcases rawStringBody rest with _ | ⟨r, after⟩ <;> simp [Except.map]
termination_by input.length - pos
decreasing_by all_goals have := lt_of_drop_eq_cons h; omega

/-- A scan of the list model, `read` characters on from `start`, as the position it reaches. -/
def shift (start : Nat) : Except String Nat → Except Stop Nat
  | .ok read => .ok (start + read)
  | .error e => refuse e

theorem integerPart_eq {input rest : List Char} {start : Nat} {c : Char}
    (h : input.drop start = c :: rest) :
    integerPart input start = shift start (Json.integerPart (input.drop start)) := by
  obtain ⟨s, hpos, hsign⟩ : ∃ s, (if c = '-' then start + 1 else start) = start + s ∧
      (if (input.drop start).head? = some '-' then 1 else 0) = s := by
    rw [h]
    by_cases minus : c = '-' <;> simp [minus]
  unfold integerPart Json.integerPart
  rw [charAt_of_drop h]
  simp only [ok_bind, hpos, hsign, List.drop_drop]
  cases hd : input.drop (start + s) with
  | nil => rw [if_neg (not_lt_of_drop_eq_nil hd)]; rfl
  | cons d tail =>
    rw [if_pos (lt_of_drop_eq_cons hd), charAt_of_drop hd]
    simp only [ok_bind]
    split_ifs with zero digit
    · rfl
    · rw [skipWhile_eq, hd, List.takeWhile_cons_of_pos digit]
      simp only [shift, digitRun, List.length_cons]
      congr 1
      omega
    · rfl

theorem requireDigits_eq (input : List Char) (start read : Nat) (error : String) :
    requireDigits input (start + read) error =
      shift start (if startsWithDigit ((input.drop start).drop read) then
        pure (read + digitRun ((input.drop start).drop read)) else .error error) := by
  unfold requireDigits
  rw [List.drop_drop]
  cases hd : input.drop (start + read) with
  | nil => simp [peekIs_of_drop_nil _ hd, startsWithDigit]; rfl
  | cons e rest =>
    rw [peekIs_of_drop_cons _ hd, skipWhile_eq, hd]
    by_cases digit : e.isDigit <;> simp [digit, shift, startsWithDigit, digitRun, Nat.add_assoc]

theorem fractionPart_eq (input : List Char) (start read : Nat) :
    fractionPart input (start + read) =
      shift start (Json.fractionPart (input.drop start) read) := by
  unfold fractionPart Json.fractionPart
  rw [List.drop_drop]
  cases hd : input.drop (start + read) with
  | nil => simp [peekIs_of_drop_nil _ hd, shift]
  | cons d tail =>
    rw [peekIs_of_drop_cons _ hd, Nat.add_assoc, requireDigits_eq]
    by_cases dot : d = '.' <;> simp [dot, shift]

theorem exponentPart_eq (input : List Char) (start read : Nat) :
    exponentPart input (start + read) =
      shift start (Json.exponentPart (input.drop start) read) := by
  unfold exponentPart Json.exponentPart
  simp only [List.drop_drop]
  cases hd : input.drop (start + read) with
  | nil => simp [peekIs_of_drop_nil _ hd, shift]
  | cons d tail =>
    have next : input.drop (start + read + 1) = tail := drop_succ_of_drop hd
    rw [peekIs_of_drop_cons _ hd]
    by_cases exp : d = 'e' ∨ d = 'E'
    · obtain ⟨k, hk, hsign⟩ : ∃ k, (peekIs input (start + read + 1)
          fun c => c == '+' || c == '-') >>= (fun sign => requireDigits input
            (if sign then start + read + 2 else start + read + 1) "Invalid exponent") =
          requireDigits input (start + (read + k)) "Invalid exponent" ∧
          (if (input.drop (start + (read + 1))).head? = some '+' ∨
            (input.drop (start + (read + 1))).head? = some '-' then read + 2 else read + 1) =
            read + k := by
        rw [← Nat.add_assoc, next]
        cases tail with
        | nil => exact ⟨1, by rw [peekIs_of_drop_nil _ next]; rfl, rfl⟩
        | cons s rest =>
          by_cases sign : s = '+' ∨ s = '-'
          · refine ⟨2, ?_, by simp [sign]⟩
            rw [peekIs_of_drop_cons _ next]
            rcases sign with rfl | rfl <;> rfl
          · refine ⟨1, ?_, by simp [sign]⟩
            rw [peekIs_of_drop_cons _ next]
            simp only [not_or] at sign
            simp [sign]; rfl
      have test : (d == 'e' || d == 'E') = true := by rcases exp with rfl | rfl <;> rfl
      simp only [test, ok_bind, if_true, List.head?_cons, Option.some.injEq, exp, hk, hsign,
        requireDigits_eq, List.drop_drop]
    · simp only [not_or] at exp
      simp [exp, shift]

theorem view_parseNumber {input rest : List Char} {start : Nat} {c : Char}
    (h : input.drop start = c :: rest) :
    view input (parseNumber input start) = Json.parseNumber (input.drop start) := by
  unfold parseNumber Json.parseNumber
  rw [integerPart_eq h]
  rcases Json.integerPart (input.drop start) with e | r₁
  · rfl
  simp only [shift, ok_bind]
  rw [fractionPart_eq]
  rcases Json.fractionPart (input.drop start) r₁ with e | r₂
  · rfl
  simp only [shift, ok_bind]
  rw [exponentPart_eq]
  rcases Json.exponentPart (input.drop start) r₂ with e | r₃
  · rfl
  simp only [shift, ok_bind, Nat.add_sub_cancel_left]
  rcases stod (String.mk ((input.drop start).take r₃)) with _ | ⟨x, _⟩ <;>
    simp [List.drop_drop]

theorem view_parseNull (input : List Char) (pos : Nat) :
    view input (parseNull input pos) = Json.parseNull (input.drop pos) := by
  unfold parseNull Json.parseNull
  split_ifs <;> simp [List.drop_drop]

theorem view_parseBool (input : List Char) (pos : Nat) :
    view input (parseBool input pos) = Json.parseBool (input.drop pos) := by
  unfold parseBool Json.parseBool
  split_ifs <;> simp [List.drop_drop]

section
variable {α : Type} {input rest : List Char} {pos : Nat}

theorem eq_refused_of_view {r : Except Stop (α × Nat)} {e : String} (h : view input r = .error e)
    (ne : e ≠ "") : r = .error (.refused (some e)) := by
  rcases r with s | ⟨v, q⟩
  · cases s with
    | refused error =>
      cases error with
      | some e' => cases h; rfl
      | none => cases h; exact absurd rfl ne
    | pastEnd _ | outOfFuel => cases h; exact absurd rfl ne
  · cases h

theorem eq_ok_of_view {r : Except Stop (α × Nat)} {v : α} (h : view input r = .ok (v, rest)) :
    ∃ q, r = .ok (v, q) ∧ input.drop q = rest := by
  rcases r with s | ⟨v', q⟩
  · cases h
  · cases h
    exact ⟨q, rfl, rfl⟩

theorem parseRawString_of_ne {c : Char} (hp : input.drop pos = c :: rest) (quote : c ≠ '"') :
    parseRawString input pos = .error (.refused none) := by
  rw [parseRawString, charAt_of_drop hp, ok_bind, if_pos quote]

theorem view_parseRawString (hp : input.drop pos = '"' :: rest) :
    view input (parseRawString input pos) = rawStringBody rest := by
  rw [parseRawString, charAt_of_drop hp, ok_bind, if_neg (not_not.2 rfl), view_rawStringLoop,
    drop_succ_of_drop hp]
  rcases rawStringBody rest with _ | ⟨r, after⟩ <;> simp [Except.map]

theorem view_parseString (hp : input.drop pos = '"' :: rest) :
    view input (parseString input pos) =
      (rawStringBody rest).map fun r => (.string (String.mk r.1), r.2) := by
  have raw := view_parseRawString hp
  unfold parseString
  rcases hr : parseRawString input pos with s | ⟨out, q⟩ <;> rw [hr] at raw <;> rw [← raw] <;>
    rfl

theorem openContainer_spec {opening : Char} (closing : Char)
    (hp : input.drop pos = opening :: rest) :
    ∃ q, input.drop q = Json.skipWhitespace rest ∧
      openContainer input opening closing pos =
        match input.drop q with
        | d :: _ => if d = closing then .ok (true, q + 1) else .ok (false, q)
        | [] => .ok (false, q) := by
  obtain ⟨q, hq, hdrop⟩ := skipWhitespace_spec input (pos + 1)
  refine ⟨q, by rw [hdrop, drop_succ_of_drop hp], ?_⟩
  rw [openContainer, charAt_of_drop hp, ok_bind, if_neg (not_not.2 rfl)]
  simp only [hq, ok_bind]
  cases hd : input.drop q with
  | nil => rw [peekIs_of_drop_nil _ hd]; rfl
  | cons d after =>
    rw [peekIs_of_drop_cons _ hd]
    by_cases close : d = closing <;> simp [close]
end

/-- The three parsing functions agree with the list model at this fuel, from every position. -/
structure Refines (input : List Char) (fuel : Nat) : Prop where
  value : ∀ pos, view input (parseValue input fuel pos) = Json.parseValue fuel (input.drop pos)
  elements : ∀ items pos,
    view input (parseElements input fuel items pos) = Json.parseElements fuel items (input.drop pos)
  members : ∀ members pos,
    view input (parseMembers input fuel members pos) =
      Json.parseMembers fuel members (input.drop pos)

theorem refines_zero (input : List Char) : Refines input 0 :=
  ⟨fun _ => rfl, fun _ _ => rfl, fun _ _ => rfl⟩

section
variable {input : List Char} {fuel : Nat} (h : Refines input fuel)
include h

theorem view_parseValue_succ (pos : Nat) :
    view input (parseValue input (fuel + 1) pos) = Json.parseValue (fuel + 1) (input.drop pos) := by
  obtain ⟨q, hq, hdrop⟩ := skipWhitespace_spec input pos
  rw [parseValue, Json.parseValue, hq, ok_bind, ← hdrop]
  cases hc : input.drop q with
  | nil => rw [if_neg (not_lt_of_drop_eq_nil hc)]; rfl
  | cons c rest =>
    rw [if_pos (lt_of_drop_eq_cons hc), charAt_of_drop hc, ok_bind]
    dsimp only
    by_cases null : c = 'n'
    · rw [if_pos null, if_pos null, ← hc]; exact view_parseNull input q
    rw [if_neg null, if_neg null]
    by_cases bool : c = 't' ∨ c = 'f'
    · rw [if_pos bool, if_pos bool, ← hc]; exact view_parseBool input q
    rw [if_neg bool, if_neg bool]
    by_cases string : c = '"'
    · subst string; rw [if_pos rfl, if_pos rfl]; exact view_parseString hc
    rw [if_neg string, if_neg string]
    by_cases array : c = '['
    · subst array
      rw [if_pos rfl, if_pos rfl]
      obtain ⟨r, hr, ho⟩ := openContainer_spec ']' hc
      rw [ho, ← hr]
      cases hd : input.drop r with
      | nil => simp only [ok_bind, Bool.false_eq_true, if_false]; rw [h.elements, hd]
      | cons d after =>
        by_cases close : d = ']'
        · subst close; simp [drop_succ_of_drop hd]
        · simp only [if_neg close, ok_bind, Bool.false_eq_true, if_false]
          rw [h.elements, hd]
          split
          · rename_i heq; exact absurd (List.cons.inj heq).1 close
          · rfl
    rw [if_neg array, if_neg array]
    by_cases object : c = '\x7b'
    · subst object
      rw [if_pos rfl, if_pos rfl]
      obtain ⟨r, hr, ho⟩ := openContainer_spec '\x7d' hc
      rw [ho, ← hr]
      cases hd : input.drop r with
      | nil => simp only [ok_bind, Bool.false_eq_true, if_false]; rw [h.members, hd]
      | cons d after =>
        by_cases close : d = '\x7d'
        · subst close; simp [drop_succ_of_drop hd]
        · simp only [if_neg close, ok_bind, Bool.false_eq_true, if_false]
          rw [h.members, hd]
          split
          · rename_i heq; exact absurd (List.cons.inj heq).1 close
          · rfl
    rw [if_neg object, if_neg object]
    split_ifs
    · rw [← hc]; exact view_parseNumber hc
    · rfl

theorem view_parseElements_succ (items : List JsonValue) (pos : Nat) :
    view input (parseElements input (fuel + 1) items pos) =
      Json.parseElements (fuel + 1) items (input.drop pos) := by
  cases hp : input.drop pos with
  | nil => rw [parseElements, if_neg (not_lt_of_drop_eq_nil hp)]; rfl
  | cons c rest =>
    have value := h.value pos
    rw [hp] at value
    rw [parseElements, if_pos (lt_of_drop_eq_cons hp), Json.parseElements, ← value]
    rcases parseValue input fuel pos with s | ⟨v, q⟩
    · rfl
    obtain ⟨r, hr, hdrop⟩ := skipWhitespace_spec input q
    simp only [ok_bind, view_ok]
    rw [hr, ok_bind, ← hdrop]
    cases hd : input.drop r with
    | nil => rw [if_neg (not_lt_of_drop_eq_nil hd)]; rfl
    | cons d after =>
      rw [if_pos (lt_of_drop_eq_cons hd), charAt_of_drop hd, ok_bind]
      dsimp only
      split_ifs
      · simp [drop_succ_of_drop hd]
      · rfl
      · obtain ⟨t, ht, hnext⟩ := skipWhitespace_spec input (r + 1)
        rw [ht, ok_bind, h.elements, hnext, drop_succ_of_drop hd]

theorem view_parseMembers_succ (members : List (String × JsonValue)) (pos : Nat) :
    view input (parseMembers input (fuel + 1) members pos) =
      Json.parseMembers (fuel + 1) members (input.drop pos) := by
  cases hp : input.drop pos with
  | nil => rw [parseMembers, if_neg (not_lt_of_drop_eq_nil hp)]; rfl
  | cons c rest =>
    rw [parseMembers, if_pos (lt_of_drop_eq_cons hp), Json.parseMembers]
    by_cases quote : c = '"'
    swap
    · rw [parseRawString_of_ne hp quote, if_pos quote]; rfl
    subst quote
    rw [if_neg (not_not.2 rfl)]
    have raw := view_parseRawString hp
    rcases hb : rawStringBody rest with e | ⟨key, after⟩
    · rw [hb] at raw
      have ne := rawStringBody_reads rest
      rw [hb, reads_error] at ne
      rw [eq_refused_of_view raw ne]
      rfl
    rw [hb] at raw
    obtain ⟨q, hq, hkey⟩ := eq_ok_of_view raw
    obtain ⟨r, hr, hdrop⟩ := skipWhitespace_spec input q
    rw [hq]
    dsimp only
    rw [hr, ok_bind, ← hkey, ← hdrop]
    cases hd : input.drop r with
    | nil => rw [peekIs_of_drop_nil _ hd]; rfl
    | cons d after =>
      rw [peekIs_of_drop_cons _ hd, ok_bind]
      by_cases colon : d = ':'
      swap
      · simp only [beq_iff_eq, colon, decide_False, Bool.false_eq_true, if_false]
        split
        · rename_i heq; exact absurd (List.cons.inj heq).1 colon
        · rfl
      subst colon
      simp only [beq_self_eq_true, if_true]
      obtain ⟨t, ht, hnext⟩ := skipWhitespace_spec input (r + 1)
      have value := h.value t
      rw [hnext, drop_succ_of_drop hd] at value
      rw [ht, ok_bind, ← value]
      rcases parseValue input fuel t with s | ⟨v, u⟩
      · rfl
      obtain ⟨w, hw, hwdrop⟩ := skipWhitespace_spec input u
      simp only [ok_bind, view_ok]
      rw [hw, ok_bind, ← hwdrop]
      cases he : input.drop w with
      | nil => rw [if_neg (not_lt_of_drop_eq_nil he)]; rfl
      | cons e after =>
        rw [if_pos (lt_of_drop_eq_cons he), charAt_of_drop he, ok_bind]
        dsimp only
        split_ifs
        · simp [drop_succ_of_drop he]
        · rfl
        · obtain ⟨x, hx, hxdrop⟩ := skipWhitespace_spec input (w + 1)
          rw [hx, ok_bind, h.members, hxdrop, drop_succ_of_drop he]

theorem Refines.succ : Refines input (fuel + 1) :=
  ⟨view_parseValue_succ h, view_parseElements_succ h, view_parseMembers_succ h⟩

end

theorem refines (input : List Char) : ∀ fuel, Refines input fuel
  | 0 => refines_zero input
  | fuel + 1 => (refines input fuel).succ

/-- What a call of the source may end in: a value with `pos_` moved past where it started, or
false with a text in `error_`; never a read past the end, never out of fuel. -/
def Safe {α : Type} (pos : Nat) : Except Stop (α × Nat) → Prop
  | .ok (_, reached) => pos < reached
  | .error s => ∃ e, e ≠ "" ∧ s = .refused (some e)

theorem safe_of_reads {α : Type} {input : List Char} {pos : Nat} {r : Except Stop (α × Nat)}
    (h : Reads (input.drop pos) (view input r)) : Safe pos r := by
  rcases r with s | ⟨v, reached⟩
  · have refused := eq_refused_of_view
      (show view input (.error s : Except Stop (α × Nat)) = .error s.text from rfl) h
    exact ⟨s.text, h, Except.error.inj refused⟩
  · simp only [view_ok, reads_ok, List.length_drop] at h
    show pos < reached
    omega

theorem parseValue_safe (input : List Char) (fuel pos : Nat)
    (long : 2 * (input.length - pos) < fuel) : Safe pos (parseValue input fuel pos) :=
  safe_of_reads (by
    rw [(refines input fuel).value pos]
    exact (enough fuel).value _ (by rwa [List.length_drop]))

/-- `ParseJson` terminates without reading past the end of the input: every failure is a
false return with a text, and every `ParseValue` call it can make moves `pos_` forward when it
returns a value. -/
theorem parse_json_in_bounds (input : String) :
    (∀ s, parseJson input = .error s → ∃ e, e ≠ "" ∧ s = .refused (some e)) ∧
    ∀ fuel pos, 2 * (input.length - pos) < fuel →
      Safe pos (parseValue input.toList fuel pos) := by
  refine ⟨fun s failed => ?_, fun fuel pos long => parseValue_safe input.toList fuel pos long⟩
  have safe := parseValue_safe input.toList (2 * input.length + 1)
    (0 + ((input.toList.drop 0).takeWhile isSpace).length)
    (by simp only [String.length, String.toList]; omega)
  unfold parseJson parse at failed
  rw [skipWhitespace, skipWhile_eq, ok_bind] at failed
  rcases hv : parseValue input.toList (2 * input.length + 1)
    (0 + ((input.toList.drop 0).takeWhile isSpace).length) with s' | ⟨v, p⟩
  · rw [hv] at failed safe
    cases failed
    exact safe
  · rw [hv, ok_bind] at failed
    simp only [skipWhitespace, skipWhile_eq, ok_bind] at failed
    cases failed

end Json.Parser

end MicroSentinel
