import MicroSentinel.Requests
import MicroSentinel.JsonRequests

/-! What `ControlPlane::ServerLoop` (`control_plane.cpp`) does with one connection: the text
one `recv` returned, at most `sizeof(buffer) - 1` bytes of what the client sent, read by
`std::string(buffer)` up to its first NUL; `HandleRequest`, which
takes the request line by `std::getline`, its method and path by two `>>` reads, the body
after the first blank line, and hands the body to the handler of the path; and the one
response, 200 from `HandleRequest` when the handler ran its callback and 400 from the loop
otherwise. Beside it, a request as a client writes it, and that the path of every such
request selects its route's handler on the body. -/
namespace MicroSentinel

namespace ControlPlane

/-- The callback a request reaches, with what it receives. -/
inductive Callback
  | mode (mode : AgentMode)
  | budget (req : BucketUpdateRequest)
  | pmuConfig (update : PmuConfigUpdate)
  | jitRegion (req : JitRegionRequest)
  | dataObject (req : DataObjectRequest)
  | target (specs : List TargetSpec)

/-- A handler's `false` where it gives no request. -/
def refuseNone {α : Type} : Option α → Except Halt α
  | some a => .ok a
  | none => .error .refused

def handleRequest (request : List Char) : Except Halt Callback := do
  let line ← refuseNone (getline request)
  let method := (extractWord line).1
  let path := (extractWord (extractWord line).2).1
  if method ≠ "POST".toList then throw .refused
  let bodyPos ← refuseNone (find request "\r\n\r\n".toList 0)
  let body := String.mk (request.drop (bodyPos + 4))
  if path = "/api/v1/mode".toList then .mode <$> refuseNone (handleModeRequest body)
  else if path = "/api/v1/token-bucket".toList then .budget <$> refuseNone (handleBudgetRequest body)
  else if path = "/api/v1/pmu-config".toList then .pmuConfig <$> handlePmuConfigRequest body
  else if path = "/api/v1/symbols/jit".toList then .jitRegion <$> handleJitRequest body
  else if path = "/api/v1/symbols/data".toList then .dataObject <$> handleDataObjectRequest body
  else if path = "/api/v1/targets".toList then .target <$> handleTargetRequest body
  else throw .refused

/-- `SendResponse`'s text. -/
def sendResponse (status : Nat) (body : String) : String :=
  "HTTP/1.1 " ++ toString status ++ "\r\nContent-Type: text/plain\r\nContent-Length: " ++
    toString body.length ++ "\r\nConnection: close\r\n\r\n" ++ body

/-- What a connection ends with: the callback run, if any, and the response sent; `none`
where the handler reached undefined behaviour. -/
def respond : Except Halt Callback → Option (Option Callback × String)
  | .ok callback => some (some callback, sendResponse 200 "ok")
  | .error .refused => some (none, sendResponse 400 "invalid request")
  | .error .undefined => none

/-- `kMaxRequestSize`, the size of `ServerLoop`'s buffer. -/
def kMaxRequestSize : Nat := 8192

/-- One connection of `ServerLoop` on the text `sent` a client wrote, of which its one `recv`
returns the first `n` bytes, `sizeof(buffer) - 1` at most; an empty read is closed with no
response. -/
def serve (sent : List Char) (n : Nat) : Option (Option Callback × String) :=
  let received := sent.take (min n (kMaxRequestSize - 1))
  if received = [] then some (none, "")
  else respond (handleRequest (received.takeWhile (· ≠ '\x00')))

/-! ### Requests as clients write them -/

/-- The six paths `HandleRequest` routes. -/
inductive Route
  | mode
  | tokenBucket
  | pmuConfig
  | symbolsJit
  | symbolsData
  | targets

namespace Route

def path : Route → List Char
  | mode => "/api/v1/mode".toList
  | tokenBucket => "/api/v1/token-bucket".toList
  | pmuConfig => "/api/v1/pmu-config".toList
  | symbolsJit => "/api/v1/symbols/jit".toList
  | symbolsData => "/api/v1/symbols/data".toList
  | targets => "/api/v1/targets".toList

/-- The handler a route's requests reach. -/
def handler : Route → String → Except Halt Callback
  | mode, body => .mode <$> refuseNone (handleModeRequest body)
  | tokenBucket, body => .budget <$> refuseNone (handleBudgetRequest body)
  | pmuConfig, body => .pmuConfig <$> handlePmuConfigRequest body
  | symbolsJit, body => .jitRegion <$> handleJitRequest body
  | symbolsData, body => .dataObject <$> handleDataObjectRequest body
  | targets, body => .target <$> handleTargetRequest body

theorem path_plain (r : Route) : r.path ≠ [] ∧ ∀ c ∈ r.path, isSpace c = false ∧ c ≠ '\x00' := by
  cases r <;> decide

end Route

/-- A request: the request line, each header line after its line break, the blank line,
the body. -/
def requestText (method path version : List Char) (headers : List (List Char))
    (body : List Char) : List Char :=
  method ++ ' ' :: path ++ ' ' :: version ++ headers.flatMap ("\r\n".toList ++ ·) ++
    "\r\n\r\n".toList ++ body

/-! ### The framing of a request -/

section Framing

variable {method path version body : List Char} {headers : List (List Char)}

theorem findFrom_skip {c : Char} {pre : List Char} (absent : c ∉ pre) (needle rest : List Char)
    (pos : Nat) : findFrom (c :: needle) (pre ++ rest) pos =
      findFrom (c :: needle) rest (pos + pre.length) := by
  induction pre generalizing pos with
  | nil => rfl
  | cons d pre ih =>
    rw [List.mem_cons, not_or] at absent
    rw [List.cons_append, findFrom, if_neg (by simp [List.isPrefixOf, absent.1]), ih absent.2,
      List.length_cons, Nat.add_right_comm, Nat.add_assoc]

theorem findFrom_headers (lines : ∀ h ∈ headers, h ≠ [] ∧ '\r' ∉ h) (rest : List Char)
    (pos : Nat) :
    findFrom ['\r', '\n', '\r', '\n'] (headers.flatMap (['\r', '\n'] ++ ·) ++ rest) pos =
      findFrom ['\r', '\n', '\r', '\n'] rest (pos + (headers.flatMap (['\r', '\n'] ++ ·)).length) := by
  induction headers generalizing pos with
  | nil => rfl
  | cons h hs ih =>
    obtain ⟨⟨d, ds, rfl⟩, plain⟩ : (∃ d ds, h = d :: ds) ∧ '\r' ∉ h := by
      obtain ⟨nonempty, plain⟩ := lines h (List.mem_cons_self h hs)
      exact ⟨List.exists_cons_of_ne_nil nonempty, plain⟩
    have first : '\r' ≠ d := fun same => plain (same ▸ List.mem_cons_self d ds)
    rw [List.flatMap_cons, List.append_assoc]
    show findFrom _ ('\r' :: (('\n' :: d :: ds) ++ _)) pos = _
    rw [findFrom, if_neg (by simp [List.isPrefixOf, first]), findFrom_skip (by simpa using plain),
      ih fun h mem => lines h (List.mem_cons_of_mem _ mem)]
    simp only [List.flatMap_cons, List.length_append, List.length_cons, List.length_nil]
    congr 1
    omega

theorem requestText_eq :
    requestText method path version headers body =
      (method ++ ' ' :: path ++ ' ' :: version) ++
        (headers.flatMap (['\r', '\n'] ++ ·) ++ (['\r', '\n', '\r', '\n'] ++ body)) := by
  simp only [requestText, List.append_assoc]
  rfl

theorem find_requestText (line : '\r' ∉ method ++ ' ' :: path ++ ' ' :: version)
    (lines : ∀ h ∈ headers, h ≠ [] ∧ '\r' ∉ h) :
    find (requestText method path version headers body) "\r\n\r\n".toList 0 =
      some ((method ++ ' ' :: path ++ ' ' :: version).length +
        (headers.flatMap (['\r', '\n'] ++ ·)).length) := by
  rw [requestText_eq, find, List.drop_zero, show "\r\n\r\n".toList = ['\r', '\n', '\r', '\n'] from rfl,
    findFrom_skip line, findFrom_headers lines, findFrom_of_prefix, Nat.zero_add]

theorem drop_requestText :
    (requestText method path version headers body).drop
      ((method ++ ' ' :: path ++ ' ' :: version).length +
        (headers.flatMap (['\r', '\n'] ++ ·)).length + 4) = body := by
  have split : requestText method path version headers body =
      ((method ++ ' ' :: path ++ ' ' :: version) ++ headers.flatMap (['\r', '\n'] ++ ·) ++
        ['\r', '\n', '\r', '\n']) ++ body := by
    rw [requestText_eq]
    simp only [List.append_assoc]
  rw [split, List.drop_left' (by rw [List.length_append, List.length_append]; rfl)]

theorem getline_requestText (named : method ≠ [])
    (line : '\n' ∉ method ++ ' ' :: path ++ ' ' :: version) :
    getline (requestText method path version headers body) =
      some (method ++ ' ' :: path ++ ' ' :: version ++ ['\r']) := by
  have text : ∃ tail, requestText method path version headers body =
      (method ++ ' ' :: path ++ ' ' :: version) ++ '\r' :: '\n' :: tail := by
    rw [requestText_eq]
    cases headers <;> exact ⟨_, rfl⟩
  obtain ⟨tail, text⟩ := text
  have ends : ∀ c ∈ method ++ ' ' :: path ++ ' ' :: version, decide (c ≠ '\n') = true :=
    fun c mem => decide_eq_true fun same => line (same ▸ mem)
  rw [getline, if_neg (by cases method <;> simp_all), text, List.takeWhile_append_of_pos ends]
  simp

theorem requestText_append :
    requestText method path version headers body = requestText method path version headers [] ++ body := by
  simp [requestText]

theorem requestText_chars {P : Char → Prop} (words : ∀ c ∈ method ++ path ++ version, P c)
    (blanks : P ' ' ∧ P '\r' ∧ P '\n') (headerChars : ∀ h ∈ headers, ∀ c ∈ h, P c) :
    ∀ c ∈ requestText method path version headers [], P c := by
  intro c mem
  simp only [requestText, List.append_nil, List.mem_append, List.mem_cons, List.mem_flatMap,
    show "\r\n\r\n".toList = ['\r', '\n', '\r', '\n'] from rfl,
    show "\r\n".toList = ['\r', '\n'] from rfl, List.mem_singleton, List.not_mem_nil,
    or_false] at mem
  rcases mem with (((inMethod | rfl | inPath) | rfl | inVersion) | ⟨h, listed, (rfl | rfl) | inLine⟩) |
    rfl | rfl | rfl | rfl
  · exact words c (List.mem_append_left _ (List.mem_append_left _ inMethod))
  · exact blanks.1
  · exact words c (List.mem_append_left _ (List.mem_append_right _ inPath))
  · exact blanks.1
  · exact words c (List.mem_append_right _ inVersion)
  all_goals first | exact blanks.2.1 | exact blanks.2.2 | exact headerChars h listed c inLine

end Framing

/-! ### Dispatch -/

theorem handleRequest_requestText (r : Route) {version : List Char}
    (versionLine : ∀ c ∈ version, c ≠ '\r' ∧ c ≠ '\n') {headers : List (List Char)}
    (lines : ∀ h ∈ headers, h ≠ [] ∧ '\r' ∉ h) (body : List Char) :
    handleRequest (requestText "POST".toList r.path version headers body) =
      r.handler (String.mk body) := by
  obtain ⟨named, plain⟩ := r.path_plain
  have noBreak : ∀ c ∈ "POST".toList ++ ' ' :: r.path ++ ' ' :: version, c ≠ '\r' ∧ c ≠ '\n' := by
    intro c mem
    rw [List.mem_append, List.mem_append, List.mem_cons, List.mem_cons] at mem
    rcases mem with (post | space | inPath) | space | inVersion
    · exact (by decide : ∀ c ∈ "POST".toList, c ≠ '\r' ∧ c ≠ '\n') c post
    · exact space ▸ by decide
    · have := (plain c inPath).1
      exact ⟨fun same => by simp [same, isSpace] at this, fun same => by simp [same, isSpace] at this⟩
    · exact space ▸ by decide
    · exact versionLine c inVersion
  have first : (extractWord ("POST".toList ++ ' ' :: r.path ++ ' ' :: version ++ ['\r'])).1 =
      "POST".toList := by
    have read := @extractWord_word [] "POST".toList (r.path ++ ' ' :: (version ++ ['\r']))
      (by simp) (by decide) (by decide)
    simp only [List.nil_append, List.append_assoc, List.cons_append] at read ⊢
    rw [read]
  have second : (extractWord (extractWord
      ("POST".toList ++ ' ' :: r.path ++ ' ' :: version ++ ['\r'])).2).1 = r.path := by
    have read := @extractWord_word [] "POST".toList (r.path ++ ' ' :: (version ++ ['\r']))
      (by simp) (by decide) (by decide)
    have next := @extractWord_word [' '] r.path (version ++ ['\r']) (by decide) named
      fun c mem => (plain c mem).1
    simp only [List.nil_append, List.append_assoc, List.cons_append, List.singleton_append]
      at read next ⊢
    rw [read, next]
  simp only [handleRequest, getline_requestText (by decide) fun mem => (noBreak _ mem).2 rfl,
    refuseNone, first, second, find_requestText (fun mem => (noBreak _ mem).1 rfl) lines,
    drop_requestText, bind, Except.bind, ne_eq, not_true_eq_false, if_false, pure, Except.pure]
  cases r <;> rfl

theorem handleRequest_takeWhile (r : Route) {version : List Char}
    (versionLine : ∀ c ∈ version, c ≠ '\r' ∧ c ≠ '\n' ∧ c ≠ '\x00') {headers : List (List Char)}
    (lines : ∀ h ∈ headers, h ≠ [] ∧ ∀ c ∈ h, c ≠ '\r' ∧ c ≠ '\x00') (body : List Char) :
    handleRequest ((requestText "POST".toList r.path version headers body).takeWhile (· ≠ '\x00')) =
      r.handler (String.mk (body.takeWhile (· ≠ '\x00'))) := by
  have clean : ∀ c ∈ requestText "POST".toList r.path version headers [],
      decide (c ≠ '\x00') = true := by
    refine requestText_chars (P := fun c => decide (c ≠ '\x00') = true) ?_ (by decide)
      fun h listed c mem => by simpa using ((lines h listed).2 c mem).2
    intro c mem
    simp only [List.mem_append] at mem
    rcases mem with (post | inPath) | inVersion
    · revert c; decide
    · simpa using (r.path_plain.2 c inPath).2
    · simpa using (versionLine c inVersion).2.2
  rw [requestText_append, List.takeWhile_append_of_pos clean, ← requestText_append,
    handleRequest_requestText r (fun c mem => ⟨(versionLine c mem).1, (versionLine c mem).2.1⟩)
      fun h listed => ⟨(lines h listed).1, fun mem => ((lines h listed).2 _ mem).1 rfl⟩]

/-- One connection on every request as clients write it, whose request line and headers fit
the bytes `recv` returns: its route's handler runs on the part of the body that fits the read
too, up to its first NUL, where `std::string(buffer)` stops reading, and the response follows
from what the handler returned. -/
theorem serve_requestText (r : Route) {version : List Char}
    (versionLine : ∀ c ∈ version, c ≠ '\r' ∧ c ≠ '\n' ∧ c ≠ '\x00') {headers : List (List Char)}
    (lines : ∀ h ∈ headers, h ≠ [] ∧ ∀ c ∈ h, c ≠ '\r' ∧ c ≠ '\x00') (body : List Char)
    (n : Nat)
    (head : (requestText "POST".toList r.path version headers []).length ≤
      min n (kMaxRequestSize - 1)) :
    serve (requestText "POST".toList r.path version headers body) n =
      respond (r.handler (String.mk ((body.take (min n (kMaxRequestSize - 1) -
        (requestText "POST".toList r.path version headers []).length)).takeWhile
          (· ≠ '\x00')))) := by
  have read : (requestText "POST".toList r.path version headers body).take
      (min n (kMaxRequestSize - 1)) = requestText "POST".toList r.path version headers
        (body.take (min n (kMaxRequestSize - 1) -
          (requestText "POST".toList r.path version headers []).length)) := by
    rw [requestText_append, List.take_append_eq_append_take, List.take_of_length_le head,
      ← requestText_append]
  rw [serve, read, if_neg (by simp [requestText]), handleRequest_takeWhile r versionLine lines]

/-- A mode switch as a client sends it, with two header lines, read whole. -/
theorem serve_modeRequest :
    (∀ c ∈ "HTTP/1.1".toList, c ≠ '\r' ∧ c ≠ '\n' ∧ c ≠ '\x00') ∧
      (∀ h ∈ ["Host: localhost".toList, "Content-Type: application/json".toList],
        h ≠ [] ∧ ∀ c ∈ h, c ≠ '\r' ∧ c ≠ '\x00') ∧
      (requestText "POST".toList Route.mode.path "HTTP/1.1".toList
          ["Host: localhost".toList, "Content-Type: application/json".toList] []).length ≤
        min 8191 (kMaxRequestSize - 1) ∧
      serve (requestText "POST".toList Route.mode.path "HTTP/1.1".toList
          ["Host: localhost".toList, "Content-Type: application/json".toList]
          "\x7b\"mode\":\"diagnostic\"\x7d".toList) 8191 =
        respond (Route.mode.handler (String.mk (("\x7b\"mode\":\"diagnostic\"\x7d".toList.take
          (min 8191 (kMaxRequestSize - 1) - (requestText "POST".toList Route.mode.path
            "HTTP/1.1".toList ["Host: localhost".toList, "Content-Type: application/json".toList]
            []).length)).takeWhile (· ≠ '\x00')))) :=
  ⟨by decide, by decide, by decide,
    serve_requestText .mode (by decide) (by decide) _ 8191 (by decide)⟩

end ControlPlane

end MicroSentinel
