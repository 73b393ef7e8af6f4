import MicroSentinel.Runtime
import MicroSentinel.Json
import Mathlib.Data.Nat.Digits

/-! The bodies `ClickHouseSink::FlushBatch` (`clickhouse_sink.cpp`) posts: one per non-empty
queue, an `INSERT` header and then one object per line, with every string through
`JsonEscape`. Integers print in decimal; a `double` prints as `fixed`, what the stream,
once set to `std::fixed` and precision 9, writes for it. Beside them, what an RFC 8259
string body stands for, which strings `JsonEscape` turns into one, and that every line is
a JSON text where the strings are such and `fixed` prints RFC 8259 numbers. Last, the
endpoint `ParseEndpoint` reads from the configured URL before the first post. -/
namespace MicroSentinel

namespace Rfc8259

/-- The two-character escapes and the character each stands for. -/
def escapes : List (Char × Char) :=
  [('"', '"'), ('\\', '\\'), ('/', '/'), ('b', '\x08'), ('f', '\x0c'), ('n', '\n'),
    ('r', '\r'), ('t', '\t')]

/-- What the `char`s of a string without `\u` escapes stand for. -/
inductive Decodes : List Char → List Char → Prop
  | nil : Decodes [] []
  | unescaped {c t v} : Unescaped c → Decodes t v → Decodes (c :: t) (c :: v)
  | escape {e c t v} : (e, c) ∈ escapes → Decodes t v → Decodes ('\\' :: e :: t) (c :: v)

theorem Decodes.chars {t v : List Char} (decodes : Decodes t v) : Chars t := by
  induction decodes with
  | nil => exact .nil
  | unescaped plain _ ih => exact .unescaped plain ih
  | escape listed _ ih => exact .escape (List.mem_map_of_mem Prod.fst listed) ih

/-! ### What writers compose -/

theorem ws_nil : Ws [] := fun _ mem => absurd mem (List.not_mem_nil _)

instance (c : Char) : Decidable (Unescaped c) := inferInstanceAs (Decidable (_ ∧ _))

theorem chars_of_unescaped {t : List Char} (plain : ∀ c ∈ t, Unescaped c) : Chars t := by
  induction t with
  | nil => exact .nil
  | cons c t ih =>
    exact .unescaped (plain c (List.mem_cons_self c t))
      (ih fun d mem => plain d (List.mem_cons_of_mem c mem))

theorem toDigitsCore_ten (fuel n : Nat) (ds : List Char) (enough : n < fuel) :
    ∃ c d, Nat.toDigitsCore 10 fuel n ds = c :: d ++ ds ∧ c.isDigit ∧
      (∀ x ∈ d, x.isDigit) ∧ (c = '0' → n = 0 ∧ d = []) := by
  have digit : ∀ k < 10, (Nat.digitChar k).isDigit ∧ (Nat.digitChar k = '0' → k = 0) := by
    decide
  induction fuel generalizing n ds with
  | zero => exact absurd enough (Nat.not_lt_zero n)
  | succ fuel ih =>
    obtain ⟨isDigit, zero⟩ := digit (n % 10) (Nat.mod_lt n (by decide))
    rw [Nat.toDigitsCore]
    by_cases last : n / 10 = 0
    · rw [if_pos last]
      exact ⟨_, [], rfl, isDigit, fun x mem => absurd mem (List.not_mem_nil x),
        fun same => ⟨by have := zero same; omega, rfl⟩⟩
    · rw [if_neg last]
      obtain ⟨c, d, eq, lead, digits, leading⟩ := ih (n / 10) _ (by omega)
      refine ⟨c, d ++ [Nat.digitChar (n % 10)], by rw [eq]; simp, lead, ?_, fun same => ?_⟩
      · simp only [List.mem_append, List.mem_singleton]
        rintro x (mem | rfl)
        · exact digits x mem
        · exact isDigit
      · exact absurd (leading same).1 last

theorem intPart_toString (n : Nat) : IntPart (toString n).toList := by
  obtain ⟨c, d, eq, lead, digits, leading⟩ := toDigitsCore_ten (n + 1) n [] (Nat.lt_succ_self n)
  have text : (toString n).toList = c :: d := by
    rw [List.append_nil] at eq
    exact eq
  rw [text]
  by_cases zero : c = '0'
  · obtain ⟨-, rfl⟩ := leading zero
    exact .inl (by rw [zero])
  · exact .inr ⟨c, d, rfl, lead, zero, digits⟩

theorem number_toString (n : Nat) : Number (toString n).toList :=
  ⟨[], _, [], [], by simp, .inl rfl, intPart_toString n, .inl rfl, .inl rfl⟩

theorem number_toString_int (i : Int) : Number (toString i).toList := by
  cases i with
  | ofNat n => exact number_toString n
  | negSucc n =>
    exact ⟨['-'], _, [], [], by rw [List.append_nil, List.append_nil]; rfl, .inr rfl,
      intPart_toString (n + 1), .inl rfl, .inl rfl⟩

/-- `member = string name-separator value`. -/
def Member (m : List Char) : Prop := ∃ k v, m = k ++ ':' :: v ∧ Str k ∧ Derives .value v

section
variable {α : Type} (text : α → List Char)

theorem derives_members {m : List Char} {ms : List α} (first : Member m)
    (rest : ∀ x ∈ ms, Member (text x)) :
    Derives .members (m ++ ms.flatMap fun x => ',' :: text x) := by
  induction ms generalizing m with
  | nil =>
    obtain ⟨k, v, rfl, key, value⟩ := first
    simpa using Derives.member key ws_nil ws_nil value
  | cons x ms ih =>
    obtain ⟨k, v, rfl, key, value⟩ := first
    have tail := ih (rest x (List.mem_cons_self x ms))
      fun y mem => rest y (List.mem_cons_of_mem x mem)
    simpa using Derives.members key ws_nil ws_nil value ws_nil ws_nil tail

theorem derives_elements {e : List Char} {es : List α} (first : Derives .value e)
    (rest : ∀ x ∈ es, Derives .value (text x)) :
    Derives .elements (e ++ es.flatMap fun x => ',' :: text x) := by
  induction es generalizing e with
  | nil => simpa using Derives.element first
  | cons x es ih =>
    have tail := ih (rest x (List.mem_cons_self x es))
      fun y mem => rest y (List.mem_cons_of_mem x mem)
    simpa using Derives.elements first ws_nil ws_nil tail

end

theorem jsonText_of_derives {v : List Char} (value : Derives .value v) : JsonText v :=
  ⟨[], v, [], by simp, ws_nil, value, ws_nil⟩

end Rfc8259

namespace ClickHouseSink

/-- The `switch` of `JsonEscape`, for one character. -/
def escapeChar (c : Char) : List Char :=
  if c = '\\' then ['\\', '\\']
  else if c = '"' then ['\\', '"']
  else if c = '\n' then ['\\', 'n']
  else if c = '\r' then ['\\', 'r']
  else if c = '\t' then ['\\', 't']
  else [c]

def jsonEscape (value : String) : String := String.mk (value.toList.flatMap escapeChar)

/-- `"key":"value"`, the value escaped. -/
def stringMember (key value : String) : String :=
  "\"" ++ key ++ "\":\"" ++ jsonEscape value ++ "\""

/-- `"key":text`. -/
def plainMember (key text : String) : String := "\"" ++ key ++ "\":" ++ text

/-- `{` members separated by `,` `}`. -/
def object (members : List String) : String := "\x7b" ++ String.intercalate "," members ++ "\x7d"

/-- `[` items separated by `,` `]`. -/
def array (items : List String) : String := "[" ++ String.intercalate "," items ++ "]"

def rollupLine (fixed : ℚ → String) (bucketWidthNs : UInt64) (host : String)
    (kv : AggregationKey × AggregatedValue) : String :=
  object [plainMember "window_start" (fixed ((kv.1.bucket * bucketWidthNs).toNat / 1000000000)),
    stringMember "host" host, plainMember "flow_id" (toString kv.1.flowId),
    plainMember "function_id" (toString kv.1.functionHash),
    plainMember "callstack_id" (toString kv.1.callstackId),
    plainMember "pmu_event" (toString kv.1.pmuEvent), plainMember "numa_node" (toString kv.1.numaNode),
    plainMember "direction" (toString kv.1.direction),
    plainMember "interference_class" (toString kv.1.interferenceClass),
    plainMember "data_object_id" (toString kv.1.dataObjectId),
    plainMember "samples" (toString kv.2.samples), plainMember "norm_cost" (fixed kv.2.normCost)]

def frameObject (frame : CodeLocation) : String :=
  object [stringMember "binary" frame.binary, stringMember "function" frame.function,
    stringMember "file" frame.sourceFile, plainMember "line" (toString frame.line)]

def stackLine (host : String) (trace : StackTrace) : String :=
  object [plainMember "stack_id" (toString trace.id), stringMember "host" host,
    plainMember "frames" (array (trace.frames.map frameObject))]

def rawLine (fixed : ℚ → String) (host : String) (entry : RawRow) : String :=
  let s := entry.sample
  object [plainMember "ts" (fixed (s.tsc.toNat / 1000000000)), stringMember "host" host,
    plainMember "cpu" (toString s.cpu), plainMember "pid" (toString s.pid),
    plainMember "tid" (toString s.tid), plainMember "flow_id" (toString s.flowId),
    plainMember "pmu_event" (toString s.pmuEvent), plainMember "ip" (toString s.ip),
    plainMember "data_addr" (toString s.dataAddr), plainMember "gso_segs" (toString s.gsoSegs),
    plainMember "ifindex" (toString s.ingressIfindex),
    plainMember "direction" (toString s.direction), plainMember "numa_node" (toString s.numaNode),
    plainMember "l4_proto" (toString s.l4Proto), plainMember "norm_cost" (fixed entry.normCost),
    plainMember "lbr" (array (entry.stack.map fun e =>
      array [toString e.fromAddr, toString e.toAddr]))]

def dataLine (host : String) (symbol : DataSymbol) : String :=
  object [plainMember "object_id" (toString symbol.id), stringMember "host" host,
    stringMember "mapping" symbol.object.mapping, plainMember "base" (toString symbol.object.base),
    plainMember "size" (toString symbol.object.size),
    stringMember "permissions" symbol.object.permissions]

/-- `INSERT INTO <table> FORMAT JSONEachRow`, then each line with its newline. -/
def payload (table : String) (lines : List String) : String :=
  "INSERT INTO " ++ table ++ " FORMAT JSONEachRow\n" ++ String.join (lines.map (· ++ "\n"))

/-- The payloads one `FlushBatch` sends, in its order: rollups, stacks, raw samples, data
objects, each only when its queue is not empty. -/
def flushBatch (cfg : ClickHouseConfig) (fixed : ℚ → String) (bucketWidthNs : UInt64)
    (host : String) (queued : Sink) : List String :=
  (if queued.rollups.isEmpty then []
    else [payload cfg.table (queued.rollups.map (rollupLine fixed bucketWidthNs host))]) ++
  (if queued.stackTraces.isEmpty then []
    else [payload cfg.stackTable (queued.stackTraces.map (stackLine host))]) ++
  (if queued.rawRows.isEmpty then []
    else [payload cfg.rawTable (queued.rawRows.map (rawLine fixed host))]) ++
  (if queued.dataObjects.isEmpty then []
    else [payload cfg.dataTable (queued.dataObjects.map (dataLine host))])

/-! ### What `JsonEscape` writes

It writes an RFC 8259 string body exactly for the strings without a control character other
than newline, carriage return and tab, and that body stands for the string. -/

/-- A character `JsonEscape` writes as RFC 8259 allows. -/
def Escapable (c : Char) : Prop := 0x20 ≤ c.toNat ∨ c = '\n' ∨ c = '\r' ∨ c = '\t'

/-- A string `JsonEscape` writes as an RFC 8259 string body. -/
def Clean (value : String) : Prop := ∀ c ∈ value.toList, Escapable c

instance (c : Char) : Decidable (Escapable c) := inferInstanceAs (Decidable (_ ∨ _))

instance (value : String) : Decidable (Clean value) :=
  inferInstanceAs (Decidable (∀ c ∈ value.toList, _))

theorem decodes_escapeChar {c : Char} (ok : Escapable c) {t v : List Char}
    (rest : Rfc8259.Decodes t v) : Rfc8259.Decodes (escapeChar c ++ t) (c :: v) := by
  unfold escapeChar
  split_ifs with backslash quote newline ret tab
  · subst backslash; exact .escape (by decide) rest
  · subst quote; exact .escape (by decide) rest
  · subst newline; exact .escape (by decide) rest
  · subst ret; exact .escape (by decide) rest
  · subst tab; exact .escape (by decide) rest
  · refine .unescaped ⟨?_, quote, backslash⟩ rest
    rcases ok with wide | same | same | same
    · exact wide
    · exact absurd same newline
    · exact absurd same ret
    · exact absurd same tab

theorem decodes_flatMap_escapeChar {cs : List Char} (ok : ∀ c ∈ cs, Escapable c) :
    Rfc8259.Decodes (cs.flatMap escapeChar) cs := by
  induction cs with
  | nil => exact .nil
  | cons c cs ih =>
    rw [List.flatMap_cons]
    exact decodes_escapeChar (ok c (List.mem_cons_self c cs))
      (ih fun d mem => ok d (List.mem_cons_of_mem c mem))

theorem decodes_jsonEscape {value : String} (ok : ∀ c ∈ value.toList, Escapable c) :
    Rfc8259.Decodes (jsonEscape value).toList value.toList :=
  decodes_flatMap_escapeChar ok

theorem mem_jsonEscape {value : String} {c : Char} (mem : c ∈ value.toList) (control : ¬Escapable c) :
    c ∈ (jsonEscape value).toList := by
  simp only [Escapable, not_or, Nat.not_le] at control
  obtain ⟨low, newline, ret, tab⟩ := control
  have wide : ∀ d : Char, 0x20 ≤ d.toNat → c ≠ d := fun d high same => by subst same; omega
  have copied : escapeChar c = [c] := by
    rw [escapeChar, if_neg (wide '\\' (by decide)), if_neg (wide '"' (by decide)), if_neg newline,
      if_neg ret, if_neg tab]
  exact List.mem_flatMap.2 ⟨c, mem, copied ▸ List.mem_singleton_self c⟩

theorem chars_jsonEscape_iff (value : String) :
    Rfc8259.Chars (jsonEscape value).toList ↔ ∀ c ∈ value.toList, Escapable c := by
  refine ⟨fun chars c mem => ?_, fun ok => (decodes_jsonEscape ok).chars⟩
  by_contra control
  exact control (.inl (chars.printable c (mem_jsonEscape mem control)))

/-! ### What the lines hold -/

theorem data_intercalate_go (acc sep : String) (items : List String) :
    (String.intercalate.go acc sep items).data =
      acc.data ++ items.flatMap fun item => sep.data ++ item.data := by
  induction items generalizing acc with
  | nil => simp [String.intercalate.go]
  | cons item items ih => simp [String.intercalate.go, ih]

theorem mem_intercalate {sep item : String} {items : List String} (listed : item ∈ items)
    {c : Char} (mem : c ∈ item.data) : c ∈ (String.intercalate sep items).data := by
  cases items with
  | nil => cases listed
  | cons first rest =>
    simp only [String.intercalate, data_intercalate_go, List.mem_append, List.mem_flatMap]
    rcases List.mem_cons.1 listed with rfl | later
    · exact .inl mem
    · exact .inr ⟨item, later, .inr mem⟩

theorem mem_object {member : String} {members : List String} (listed : member ∈ members)
    {c : Char} (mem : c ∈ member.data) : c ∈ (object members).data := by
  simp only [object, String.data_append, List.mem_append]
  exact .inl (.inr (mem_intercalate listed mem))

theorem mem_array {item : String} {items : List String} (listed : item ∈ items) {c : Char}
    (mem : c ∈ item.data) : c ∈ (array items).data := by
  simp only [array, String.data_append, List.mem_append]
  exact .inl (.inr (mem_intercalate listed mem))

theorem mem_stringMember (key : String) {value : String} {c : Char} (mem : c ∈ (jsonEscape value).data) :
    c ∈ (stringMember key value).data := by
  simp only [stringMember, String.data_append, List.mem_append]
  exact .inl (.inr mem)

theorem mem_plainMember (key : String) {text : String} {c : Char} (mem : c ∈ text.data) :
    c ∈ (plainMember key text).data := by
  simp only [plainMember, String.data_append, List.mem_append]
  exact .inr mem

theorem mem_stackLine {host : String} {trace : StackTrace} {frame : CodeLocation}
    (listed : frame ∈ trace.frames) {c : Char} (mem : c ∈ (jsonEscape frame.function).data) :
    c ∈ (stackLine host trace).data :=
  mem_object (by simp [stackLine]) <| mem_plainMember "frames" <|
    mem_array (List.mem_map_of_mem frameObject listed) <|
      mem_object (by simp [frameObject]) (mem_stringMember "function" mem)

/-! ### The lines are JSON texts

Each line is an object of members whose keys are plain text, whose numbers print in decimal
and whose strings go through `JsonEscape`; so where the strings are clean and `fixed` prints
RFC 8259 numbers, every line is a JSON text. -/

open Rfc8259

theorem data_intercalate_comma (item : String) (items : List String) :
    (String.intercalate "," (item :: items)).data =
      item.data ++ items.flatMap fun x => ',' :: x.data := by
  simp [String.intercalate, data_intercalate_go]

theorem derives_object {members : List String} (present : members ≠ [])
    (each : ∀ m ∈ members, Member m.data) : Derives .value (object members).data := by
  obtain ⟨m, ms, rfl⟩ := List.exists_cons_of_ne_nil present
  have inner := derives_members String.data (each m (List.mem_cons_self m ms))
    fun x mem => each x (List.mem_cons_of_mem m mem)
  simpa [object, data_intercalate_comma] using Derives.object ws_nil ws_nil inner ws_nil ws_nil

theorem derives_array {items : List String} (each : ∀ i ∈ items, Derives .value i.data) :
    Derives .value (array items).data := by
  cases items with
  | nil => simpa [array] using Derives.emptyArray ws_nil ws_nil ws_nil
  | cons i is =>
    have inner := derives_elements String.data (each i (List.mem_cons_self i is))
      fun x mem => each x (List.mem_cons_of_mem i mem)
    simpa [array, data_intercalate_comma] using Derives.array ws_nil ws_nil inner ws_nil ws_nil

theorem member_stringMember {key : String} (plain : ∀ c ∈ key.data, Unescaped c)
    {value : String} (clean : Clean value) : Member (stringMember key value).data :=
  ⟨'"' :: key.data ++ ['"'], '"' :: (jsonEscape value).data ++ ['"'], by simp [stringMember],
    ⟨_, rfl, chars_of_unescaped plain⟩,
    .string ⟨_, rfl, (chars_jsonEscape_iff value).2 clean⟩⟩

theorem member_plainMember {key : String} (plain : ∀ c ∈ key.data, Unescaped c) {text : String}
    (value : Derives .value text.data) : Member (plainMember key text).data :=
  ⟨'"' :: key.data ++ ['"'], text.data, by simp [plainMember],
    ⟨_, rfl, chars_of_unescaped plain⟩, value⟩

theorem derives_toString (n : Nat) : Derives .value (toString n).data := .number (number_toString n)

theorem derives_frameObject {frame : CodeLocation}
    (clean : Clean frame.binary ∧ Clean frame.function ∧ Clean frame.sourceFile) :
    Derives .value (frameObject frame).data := by
  refine derives_object (List.cons_ne_nil _ _) ?_
  simp only [List.forall_mem_cons, List.not_mem_nil, false_implies, implies_true, and_true]
  exact ⟨member_stringMember (by decide) clean.1, member_stringMember (by decide) clean.2.1,
    member_stringMember (by decide) clean.2.2,
    member_plainMember (by decide) (.number (number_toString_int frame.line))⟩

theorem derives_stackLine {host : String} (cleanHost : Clean host) {trace : StackTrace}
    (cleanFrames : ∀ f ∈ trace.frames,
      Clean f.binary ∧ Clean f.function ∧ Clean f.sourceFile) :
    Derives .value (stackLine host trace).data := by
  refine derives_object (List.cons_ne_nil _ _) ?_
  simp only [List.forall_mem_cons, List.not_mem_nil, false_implies, implies_true, and_true]
  refine ⟨member_plainMember (by decide) (derives_toString trace.id.toNat),
    member_stringMember (by decide) cleanHost, member_plainMember (by decide) (derives_array ?_)⟩
  intro item mem
  obtain ⟨f, listed, rfl⟩ := List.mem_map.1 mem
  exact derives_frameObject (cleanFrames f listed)

section
variable {fixed : ℚ → String} (numbers : ∀ q, Number (fixed q).toList) {host : String}
  (cleanHost : Clean host)
include numbers cleanHost

theorem derives_rollupLine (bucketWidthNs : UInt64) (kv : AggregationKey × AggregatedValue) :
    Derives .value (rollupLine fixed bucketWidthNs host kv).data := by
  refine derives_object (List.cons_ne_nil _ _) ?_
  simp only [List.forall_mem_cons, List.not_mem_nil, false_implies, implies_true, and_true]
  exact ⟨member_plainMember (by decide) (.number (numbers _)),
    member_stringMember (by decide) cleanHost,
    member_plainMember (by decide) (derives_toString kv.1.flowId.toNat),
    member_plainMember (by decide) (derives_toString kv.1.functionHash.toNat),
    member_plainMember (by decide) (derives_toString kv.1.callstackId.toNat),
    member_plainMember (by decide) (derives_toString kv.1.pmuEvent.toNat),
    member_plainMember (by decide) (derives_toString kv.1.numaNode.toNat),
    member_plainMember (by decide) (derives_toString kv.1.direction.toNat),
    member_plainMember (by decide) (derives_toString kv.1.interferenceClass.toNat),
    member_plainMember (by decide) (derives_toString kv.1.dataObjectId.toNat),
    member_plainMember (by decide) (derives_toString kv.2.samples.toNat),
    member_plainMember (by decide) (.number (numbers _))⟩

theorem derives_rawLine (entry : RawRow) : Derives .value (rawLine fixed host entry).data := by
  refine derives_object (List.cons_ne_nil _ _) ?_
  simp only [List.forall_mem_cons, List.not_mem_nil, false_implies, implies_true, and_true]
  refine ⟨member_plainMember (by decide) (.number (numbers _)),
    member_stringMember (by decide) cleanHost,
    member_plainMember (by decide) (derives_toString entry.sample.cpu.toNat),
    member_plainMember (by decide) (derives_toString entry.sample.pid.toNat),
    member_plainMember (by decide) (derives_toString entry.sample.tid.toNat),
    member_plainMember (by decide) (derives_toString entry.sample.flowId.toNat),
    member_plainMember (by decide) (derives_toString entry.sample.pmuEvent.toNat),
    member_plainMember (by decide) (derives_toString entry.sample.ip.toNat),
    member_plainMember (by decide) (derives_toString entry.sample.dataAddr.toNat),
    member_plainMember (by decide) (derives_toString entry.sample.gsoSegs.toNat),
    member_plainMember (by decide) (derives_toString entry.sample.ingressIfindex.toNat),
    member_plainMember (by decide) (derives_toString entry.sample.direction.toNat),
    member_plainMember (by decide) (derives_toString entry.sample.numaNode.toNat),
    member_plainMember (by decide) (derives_toString entry.sample.l4Proto.toNat),
    member_plainMember (by decide) (.number (numbers _)),
    member_plainMember (by decide) (derives_array fun item mem => ?_)⟩
  obtain ⟨e, -, rfl⟩ := List.mem_map.1 mem
  refine derives_array ?_
  simp only [List.forall_mem_cons, List.not_mem_nil, false_implies, implies_true, and_true]
  exact ⟨derives_toString e.fromAddr.toNat, derives_toString e.toAddr.toNat⟩

end

theorem derives_dataLine {host : String} (cleanHost : Clean host) {symbol : DataSymbol}
    (clean : Clean symbol.object.mapping ∧ Clean symbol.object.permissions) :
    Derives .value (dataLine host symbol).data := by
  refine derives_object (List.cons_ne_nil _ _) ?_
  simp only [List.forall_mem_cons, List.not_mem_nil, false_implies, implies_true, and_true]
  exact ⟨member_plainMember (by decide) (derives_toString symbol.id.toNat),
    member_stringMember (by decide) cleanHost, member_stringMember (by decide) clean.1,
    member_plainMember (by decide) (derives_toString symbol.object.base.toNat),
    member_plainMember (by decide) (derives_toString symbol.object.size.toNat),
    member_stringMember (by decide) clean.2⟩

theorem queue_lines_json {α : Type} {line : α → String} {rows : List α}
    (json : ∀ r ∈ rows, Derives .value (line r).data) (table : String) :
    ∀ body ∈ (if rows.isEmpty then [] else [payload table (rows.map line)]),
      ∃ table lines, body = payload table lines ∧ ∀ l ∈ lines, JsonText l.toList := by
  intro body mem
  split at mem
  · exact absurd mem (List.not_mem_nil body)
  · refine ⟨table, rows.map line, List.mem_singleton.1 mem, fun l listed => ?_⟩
    obtain ⟨r, present, rfl⟩ := List.mem_map.1 listed
    exact jsonText_of_derives (json r present)

/-- `HttpEndpoint`, with its defaults. -/
structure HttpEndpoint where
  host : String := ""
  port : UInt16 := 8123
  path : String := "/"
  valid : Bool := false
  deriving DecidableEq

/-- `ParseEndpoint`: the endpoint it leaves and what it returns. `.error` is the exception
`std::stoi` throws, by its `what()`, on a port that is no number or does not fit an `int`;
nothing in the sink catches it. -/
def parseEndpoint (url : String) (e : HttpEndpoint) : Except String (HttpEndpoint × Bool) :=
  if !hasPrefix url "http://" then .ok (e, false)
  else
    let rest := url.toList.drop 7
    let hostPort := rest.takeWhile (· ≠ '/')
    let path :=
      if rest.dropWhile (· ≠ '/') = [] then "/" else String.mk (rest.dropWhile (· ≠ '/'))
    if ':' ∉ hostPort then
      let host := String.mk hostPort
      .ok (⟨host, 8123, path, !host.isEmpty⟩, !host.isEmpty)
    else
      let host := String.mk (hostPort.takeWhile (· ≠ ':'))
      match stoi (String.mk (hostPort.dropWhile (· ≠ ':')).tail) with
      | none => .error "stoi"
      | some (port, _) =>
        .ok (⟨host, UInt16.ofNat (port % 65536).toNat, path, !host.isEmpty⟩, !host.isEmpty)

/-- What `SendPayload` has of the endpoint before it connects: the endpoint afterwards, and
the one it posts to, `none` where it returns false first. -/
def sendPayloadEndpoint (url : String) (e : HttpEndpoint) :
    Except String (HttpEndpoint × Option HttpEndpoint) :=
  if e.valid then .ok (e, some e)
  else (parseEndpoint url e).map fun r => (r.1, if r.2 then some r.1 else none)

theorem takeWhile_path {path : List Char} (start : ∀ c ∈ path.head?, c = '/') :
    path.takeWhile (· ≠ '/') = [] := by
  cases path with
  | nil => rfl
  | cons c rest => simp [start c rfl]

/-- An `http://` URL whose authority has a colon throws wherever `std::stoi` rejects the text
after the colon: a port that is empty, not a number, or outside `int`. -/
theorem parseEndpoint_throws {host port : List Char}
    (plainHost : ∀ c ∈ host, c ≠ '/' ∧ c ≠ ':') (plainPort : ∀ c ∈ port, c ≠ '/')
    {path : List Char} (start : ∀ c ∈ path.head?, c = '/')
    (rejected : stoi (String.mk port) = none) (e : HttpEndpoint) :
    parseEndpoint (String.mk ("http://".toList ++ host ++ ':' :: port ++ path)) e =
      .error "stoi" := by
  have authority : (host ++ ':' :: port ++ path).takeWhile (· ≠ '/') = host ++ ':' :: port := by
    rw [List.takeWhile_append_of_pos, takeWhile_path start, List.append_nil]
    simp only [List.mem_append, List.mem_cons]
    rintro c (inHost | rfl | inPort)
    · exact decide_eq_true (plainHost c inHost).1
    · decide
    · exact decide_eq_true (plainPort c inPort)
  have colon : (host ++ ':' :: port).dropWhile (· ≠ ':') = ':' :: port := by
    rw [List.dropWhile_append_of_pos (fun c inHost => decide_eq_true (plainHost c inHost).2)]
    simp
  have prefixed :
      hasPrefix (String.mk ("http://".toList ++ host ++ ':' :: port ++ path)) "http://" := by
    simp [hasPrefix]
  have rest : (String.mk ("http://".toList ++ host ++ ':' :: port ++ path)).toList.drop 7 =
      host ++ ':' :: port ++ path := by
    show ("http://".toList ++ host ++ ':' :: port ++ path).drop 7 = _
    rw [List.append_assoc, List.append_assoc, List.drop_left' (by rfl), List.append_assoc]
  rw [parseEndpoint, prefixed, Bool.not_true, if_neg Bool.false_ne_true]
  dsimp only
  rw [rest, authority, if_neg (by simp), colon, List.tail_cons, rejected]

theorem parseEndpoint_throws_named_port :
    parseEndpoint (String.mk ("http://".toList ++ "collector".toList ++ ':' :: "http".toList ++
      "/insert".toList)) {} = .error "stoi" :=
  parseEndpoint_throws (by decide) (by decide) (by decide) (by rfl) {}

end ClickHouseSink

open ClickHouseSink Rfc8259 in
/-- `JsonEscape` copies a control character other than newline, carriage return and tab, so
a frame whose function name holds one gives a line that is no JSON text, whatever the
configuration and the host. -/
theorem sink_line_keeps_control_char (cfg : ClickHouseConfig) (fixed : ℚ → String)
    (bucketWidthNs : UInt64) (host : String) :
    let trace : StackTrace := ⟨1, [⟨"app", "f\x01", "app.c", 7⟩]⟩
    flushBatch cfg fixed bucketWidthNs host ⟨[], [trace], [], []⟩ =
        [payload cfg.stackTable [stackLine host trace]] ∧
      ¬ JsonText (stackLine host trace).toList := by
  intro trace
  refine ⟨rfl, fun text => ?_⟩
  have kept : '\x01' ∈ (stackLine host trace).data :=
    mem_stackLine (List.mem_singleton_self _) (by decide)
  exact absurd (text.printable _ kept (by decide)) (by decide)

open ClickHouseSink in
/-- `ParseEndpoint` lets `std::stoi` throw on a port that is no number, and `SendPayload`
with it, on the worker's first flush; a port outside 16 bits is kept modulo 2^16, and a port
of 0 is accepted. -/
theorem endpoint_port_aborts :
    parseEndpoint "http://collector:http/" {} = .error "stoi" ∧
    sendPayloadEndpoint "http://collector:http/" {} = .error "stoi" ∧
    parseEndpoint "http://collector:70000/insert" {} =
      .ok (⟨"collector", 4464, "/insert", true⟩, true) ∧
    parseEndpoint "http://collector:0" {} = .ok (⟨"collector", 0, "/", true⟩, true) :=
  ⟨rfl, rfl, rfl, rfl⟩

end MicroSentinel
