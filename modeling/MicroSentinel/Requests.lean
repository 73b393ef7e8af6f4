import MicroSentinel.Json
import MicroSentinel.Components

/-! The request handlers of `ControlPlane` (`control_plane.cpp`) that read their fields by
scanning the body's text instead of parsing it: `HandleModeRequest` with
`ExtractJsonString` and `ParseMode`, and `HandleBudgetRequest` with `ExtractJsonUint`. Each
handler is what its callback receives, `none` where it returns false; the callbacks are
taken to be set. -/
namespace MicroSentinel

namespace ControlPlane

/-- `ParseMode`: `std::tolower` on each character, then the three names. -/
def parseMode (value : String) : Option AgentMode :=
  let lower := toLower value
  if lower = "diagnostic" ∨ lower = "diag" then some .diagnostic
  else if lower = "sentinel" then some .sentinel
  else none

/-- The scan of `std::string::find`, from position `pos` of the text on. -/
def findFrom (needle : List Char) : List Char → Nat → Option Nat
  | [], pos => if needle = [] then some pos else none
  | c :: rest, pos => if needle.isPrefixOf (c :: rest) then some pos else findFrom needle rest (pos + 1)

/-- `body.find(needle, pos)`. -/
def find (body needle : List Char) (pos : Nat) : Option Nat := findFrom needle (body.drop pos) pos

/-- The text `"key"` both extractors look for. -/
def quotedKey (key : String) : List Char := '"' :: key.toList ++ ['"']

/-- `ExtractJsonString`: the text between the first two quotes after the first colon that
follows the first occurrence of `"key"`, or "". -/
def extractJsonString (body : List Char) (key : String) : String :=
  (do
    let keyPos ← find body (quotedKey key) 0
    let colon ← find body [':'] keyPos
    let firstQuote ← find body ['"'] (colon + 1)
    let secondQuote ← find body ['"'] (firstQuote + 1)
    pure (String.mk ((body.drop (firstQuote + 1)).take (secondQuote - firstQuote - 1)))).getD ""

/-- `ExtractJsonUint`: the run of digits after the white space that follows that colon, by
`std::stoull`; `none` where `ok` is set false. -/
def extractJsonUint (body : List Char) (key : String) : Option UInt64 := do
  let keyPos ← find body (quotedKey key) 0
  let colon ← find body [':'] keyPos
  let idx := colon + 1 + ((body.drop (colon + 1)).takeWhile isSpace).length
  let digits := (body.drop idx).takeWhile Char.isDigit
  if digits = [] then none else (stoull (String.mk digits)).map (·.1)

def handleModeRequest (body : String) : Option AgentMode :=
  parseMode (extractJsonString body.toList "mode")

/-- `HandleBudgetRequest`: each positive budget found is set; with none of the three, the
legacy `samples_per_sec` is the sentinel budget, and without it the request fails. -/
def handleBudgetRequest (body : String) : Option BucketUpdateRequest :=
  let positive (key : String) : Option UInt64 := (extractJsonUint body.toList key).filter (· > 0)
  let sentinel := positive "sentinel_samples_per_sec"
  let diag := positive "diagnostic_samples_per_sec"
  let hardDrop := positive "hard_drop_ns"
  if sentinel.isNone ∧ diag.isNone ∧ hardDrop.isNone then
    (positive "samples_per_sec").map fun legacy => ⟨true, legacy, false, 0, false, 0⟩
  else
    some ⟨sentinel.isSome, sentinel.getD 0, diag.isSome, diag.getD 0, hardDrop.isSome,
      hardDrop.getD 0⟩

/-! ### What the scans read

On a body whose first member is the key, the scans read that member's text: a string
without quotes, or the leading digits of a number. -/

theorem findFrom_of_prefix (needle rest : List Char) (pos : Nat) :
    findFrom needle (needle ++ rest) pos = some pos := by
  cases needle with
  | nil => cases rest <;> rfl
  | cons c cs =>
    rw [List.cons_append, findFrom]
    exact if_pos (List.isPrefixOf_iff_prefix.2 ⟨rest, rfl⟩)

theorem findFrom_char {c : Char} {pre : List Char} (absent : c ∉ pre) (rest : List Char)
    (pos : Nat) : findFrom [c] (pre ++ c :: rest) pos = some (pos + pre.length) := by
  induction pre generalizing pos with
  | nil => exact findFrom_of_prefix [c] rest pos
  | cons d pre ih =>
    rw [List.mem_cons, not_or] at absent
    have skip : [c].isPrefixOf (d :: (pre ++ c :: rest)) = false := by
      simp [List.isPrefixOf, absent.1]
    rw [List.cons_append, findFrom, skip, if_neg Bool.false_ne_true, ih absent.2,
      List.length_cons, Nat.add_right_comm, Nat.add_assoc]

theorem find_char (skipped : List Char) {c : Char} {pre : List Char} (absent : c ∉ pre)
    (rest : List Char) :
    find (skipped ++ pre ++ c :: rest) [c] skipped.length = some (skipped.length + pre.length) := by
  rw [find, List.append_assoc, List.drop_left' rfl, findFrom_char absent]

theorem find_first_member {key : String} (plain : ':' ∉ key.toList) (rest : List Char) :
    find ('\x7b' :: (quotedKey key ++ ':' :: rest)) (quotedKey key) 0 = some 1 ∧
      find ('\x7b' :: (quotedKey key ++ ':' :: rest)) [':'] 1 =
        some ((quotedKey key).length + 1) := by
  have quoted : ':' ∉ quotedKey key := by simpa [quotedKey] using plain
  refine ⟨?_, ?_⟩
  · rw [find, List.drop_zero, findFrom, if_neg (by simp [quotedKey, List.isPrefixOf]),
      findFrom_of_prefix]
  · rw [find, List.drop_one, List.tail_cons, findFrom_char quoted, Nat.add_comm]

theorem extractJsonString_first {key : String} (plain : ':' ∉ key.toList)
    {value : List Char} (unquoted : '"' ∉ value) (post : List Char) :
    extractJsonString ('\x7b' :: (quotedKey key ++ ':' :: '"' :: (value ++ '"' :: post))) key =
      String.mk value := by
  have firstAt := find_char ('\x7b' :: quotedKey key ++ [':']) (List.not_mem_nil '"')
    (value ++ '"' :: post)
  have secondAt := find_char ('\x7b' :: quotedKey key ++ [':', '"']) unquoted post
  simp only [List.cons_append, List.append_assoc, List.nil_append, List.singleton_append,
    List.length_cons, List.length_append, List.length_nil, Nat.add_zero] at firstAt secondAt
  have inner : List.drop ((quotedKey key).length + 1 + 1 + 1)
      ('\x7b' :: (quotedKey key ++ ':' :: '"' :: (value ++ '"' :: post))) = value ++ '"' :: post := by
    rw [show '\x7b' :: (quotedKey key ++ ':' :: '"' :: (value ++ '"' :: post)) =
      ('\x7b' :: quotedKey key ++ [':', '"']) ++ (value ++ '"' :: post) by simp, List.drop_left']
    simp
  simp only [extractJsonString, (find_first_member plain _).1, (find_first_member plain _).2,
    firstAt, secondAt, Option.bind_eq_bind, Option.some_bind, Option.pure_def, Option.getD_some,
    inner]
  rw [show (quotedKey key).length + 1 + 1 + 1 + value.length - ((quotedKey key).length + 1 + 1) - 1
    = value.length by omega, List.take_left' rfl]

theorem extractJsonUint_first {key : String} (plain : ':' ∉ key.toList) {digits : List Char}
    (present : digits ≠ []) (numeral : ∀ d ∈ digits, d.isDigit) {post : List Char}
    (stops : ∀ d ∈ post.head?, d.isDigit = false) :
    extractJsonUint ('\x7b' :: (quotedKey key ++ ':' :: (digits ++ post))) key =
      (stoull (String.mk digits)).map (·.1) := by
  obtain ⟨d, ds, rfl⟩ := List.exists_cons_of_ne_nil present
  have inner : List.drop ((quotedKey key).length + 1 + 1)
      ('\x7b' :: (quotedKey key ++ ':' :: (d :: ds ++ post))) = d :: ds ++ post := by
    rw [show '\x7b' :: (quotedKey key ++ ':' :: (d :: ds ++ post)) =
      ('\x7b' :: quotedKey key ++ [':']) ++ (d :: ds ++ post) by simp, List.drop_left']
    simp
  have noSpace : (d :: ds ++ post).takeWhile isSpace = [] :=
    List.takeWhile_cons_of_neg (by simp [isSpace_of_isDigit (numeral d (List.mem_cons_self d ds))])
  have run : (d :: ds ++ post).takeWhile Char.isDigit = d :: ds := by
    rw [List.takeWhile_append_of_pos numeral, List.append_right_eq_self]
    cases post with
    | nil => rfl
    | cons e rest => exact List.takeWhile_cons_of_neg (by simpa using stops e rfl)
  simp only [extractJsonUint, (find_first_member plain _).1, (find_first_member plain _).2,
    Option.bind_eq_bind, Option.some_bind, inner, noSpace, List.length_nil, Nat.add_zero, run,
    List.cons_ne_nil, if_false]

theorem handleModeRequest_first {value : List Char} (unquoted : '"' ∉ value) (post : List Char) :
    handleModeRequest
        (String.mk ('\x7b' :: (quotedKey "mode" ++ ':' :: '"' :: (value ++ '"' :: post)))) =
      parseMode (String.mk value) :=
  congrArg parseMode (extractJsonString_first (by decide) unquoted post)

end ControlPlane

open ControlPlane Json in
/-- Both handlers read the body's text, not the parsed object: a budget of 2.5 is read as 2,
and a `mode` whose value is an object holding the key "diag" switches to diagnostic. -/
theorem control_requests_scan_raw_text :
    (∃ q : ℚ, (parseJson "\x7b\"sentinel_samples_per_sec\":2.5\x7d" "").1 =
        some (.object [("sentinel_samples_per_sec", .number q)]) ∧ q = 5 / 2) ∧
      handleBudgetRequest "\x7b\"sentinel_samples_per_sec\":2.5\x7d" =
        some ⟨true, 2, false, 0, false, 0⟩ ∧
    (parseJson "\x7b\"mode\":\x7b\"diag\":true\x7d\x7d" "").1 =
        some (.object [("mode", .object [("diag", .bool true)])]) ∧
      handleModeRequest "\x7b\"mode\":\x7b\"diag\":true\x7d\x7d" = some .diagnostic := by
  refine ⟨⟨_, rfl, ?_⟩, rfl, rfl, by decide⟩
  simp +decide [digitRun, isSpace, decimalValue, signLength, MicroSentinel.exponentPart]
  norm_num

end MicroSentinel
