import MicroSentinel.BpfOrchestrator

/-! How a PMU sample is attributed to its event (`bpf_orchestrator.cpp`, and `map_hw_event`
of `micro_sentinel_kern.bpf.c`). `AttachPerfGroupsLocked` attaches each perf link with the
cookie `next_cookie_` and binds that cookie in `ms_event_cookie` to the link's logical event;
`DetachPerfGroupsLocked` deletes the bindings; `map_hw_event` labels a sample by the cookie of
the link that took it. A run is any sequence of the two calls, with any answers of the
kernel. -/
namespace MicroSentinel

/-- `map_hw_event`: the event bound to a non-zero attach cookie, else `ms_active_event[0]`,
else `MS_EVT_L3_MISS`. -/
def mapHwEvent (maps : KernelMaps) (cookie : UInt64) : UInt32 :=
  match if cookie ≠ 0 then maps.cookies.lookup cookie else none with
  | some evt => evt
  | none => maps.activeEvent.getD msEvtL3Miss

namespace BpfOrchestrator

/-- The calls a run is made of, each with the kernel's answers. -/
inductive LinkCall where
  | attach (k : Kernel) (groups : List PmuGroupConfig)
  | detach

def LinkCall.apply (o : BpfOrchestrator) : LinkCall → BpfOrchestrator
  | .attach k groups => (o.attachPerfGroups k groups).1
  | .detach => o.detachPerfGroups

/-- The orchestrator after each call of a run. -/
def states (o : BpfOrchestrator) : List LinkCall → List BpfOrchestrator
  | [] => []
  | call :: calls => call.apply o :: states (call.apply o) calls

/-- The cookies handed out by the call that left `o`: one for each link it left in cookie
mode. -/
def issued (o : BpfOrchestrator) : Nat := if o.cookieSupported then o.perfLinks.length else 0

/-- The cookies a run hands out. -/
def issuedIn (o : BpfOrchestrator) (calls : List LinkCall) : Nat :=
  ((states o calls).map issued).sum

/-- What `WriteCookie` binds a link's cookie to. -/
def binding (a : PerfAttach) : UInt64 × UInt32 := (a.cookie, a.event.logical)

/-- The cookie map after the bindings of `links` are written one after the other. -/
def written (links : List PerfAttach) (cookies : List (UInt64 × UInt32)) :
    List (UInt64 × UInt32) :=
  links.foldl (fun cookies a => binding a :: deleteCookie cookies a.cookie) cookies

/-- `o` with the links `new` pushed and their bindings written, as the attach loop leaves
it. -/
def pushLinks (o : BpfOrchestrator) (new : List PerfAttach) : BpfOrchestrator :=
  { o with perfLinks := o.perfLinks ++ new,
           maps := { o.maps with cookies := written new o.maps.cookies } }

/-- The bindings of non-zero cookies, the only ones `map_hw_event` looks up. -/
def liveBindings (cookies : List (UInt64 × UInt32)) : List (UInt64 × UInt32) :=
  cookies.filter (·.1 ≠ 0)

/-- An orchestrator after `n` cookies were handed out: the next one is `n + 1`; each link is a
legacy one, with cookie 0 and the active event its own, or carries a cookie up to `n`; the
non-zero cookies are distinct, their bindings are exactly the live ones of the map, and
`DetachPerfGroupsLocked` can delete them. -/
structure Attributed (n : Nat) (o : BpfOrchestrator) : Prop where
  fits : n < 2 ^ 64
  next : o.nextCookie = UInt64.ofNat (n + 1)
  below : ∀ a ∈ o.perfLinks, a.cookie.toNat ≤ n
  distinct : ((o.perfLinks.map (·.cookie)).filter (· ≠ 0)).Nodup
  legacy : ∀ a ∈ o.perfLinks, a.cookie = 0 → o.maps.activeEvent = some a.event.logical
  bound : liveBindings o.maps.cookies = ((o.perfLinks.filter (·.cookie ≠ 0)).map binding).reverse
  deletable : ∀ a ∈ o.perfLinks, a.cookie ≠ 0 → o.cookieMapFd = true

theorem Attributed.empty {n : Nat} {o : BpfOrchestrator} (fits : n < 2 ^ 64)
    (next : o.nextCookie = UInt64.ofNat (n + 1)) (links : o.perfLinks = [])
    (live : liveBindings o.maps.cookies = []) : Attributed n o :=
  ⟨fits, next, by simp [links], by simp [links], by simp [links], by simp [links, live],
    by simp [links]⟩

theorem filter_not_mem_cons (l : List (UInt64 × UInt32)) (c : UInt64) (cs : List UInt64) :
    l.filter (·.1 ∉ c :: cs) = (l.filter (·.1 ∉ cs)).filter (·.1 ≠ c) := by
  rw [List.filter_filter]
  congr 1
  funext b
  simp [and_comm]

theorem written_filter_not_mem (links : List PerfAttach) (init : List (UInt64 × UInt32)) :
    (written links init).filter (·.1 ∉ links.map (·.cookie)) =
      init.filter (·.1 ∉ links.map (·.cookie)) := by
  induction links generalizing init with
  | nil => rfl
  | cons a rest ih =>
    simp only [written, List.foldl_cons, List.map_cons] at ih ⊢
    rw [filter_not_mem_cons, ih, ← filter_not_mem_cons,
      List.filter_cons_of_neg (by simp [binding]), deleteCookie, List.filter_filter]
    congr 1
    funext b
    by_cases same : b.1 = a.cookie <;> simp [same]

theorem written_of_nodup (links : List PerfAttach) (init : List (UInt64 × UInt32))
    (nodup : (links.map (·.cookie)).Nodup) :
    written links init =
      (links.map binding).reverse ++ init.filter (·.1 ∉ links.map (·.cookie)) := by
  induction links generalizing init with
  | nil => simp [written]
  | cons a rest ih =>
    rw [List.map_cons, List.nodup_cons] at nodup
    simp only [written, List.foldl_cons, List.map_cons] at ih ⊢
    rw [ih _ nodup.2, List.filter_cons_of_pos (by simpa [binding] using nodup.1),
      filter_not_mem_cons, deleteCookie, List.filter_comm]
    simp

theorem live_foldl_delete (fd : Bool) (links : List PerfAttach) (init : List (UInt64 × UInt32))
    (h : ∀ a ∈ links, a.cookie ≠ 0 → fd = true) :
    liveBindings (links.foldl (fun cookies a =>
        if fd = true ∧ a.cookie ≠ 0 then deleteCookie cookies a.cookie else cookies) init) =
      (liveBindings init).filter (·.1 ∉ links.map (·.cookie)) := by
  induction links generalizing init with
  | nil => simp
  | cons a rest ih =>
    rw [List.foldl_cons, List.map_cons, filter_not_mem_cons]
    by_cases zero : a.cookie = 0
    · rw [if_neg (fun h => h.2 zero), ih _ fun b m => h b (List.mem_cons_of_mem _ m), zero]
      refine (List.filter_eq_self.2 fun b m => ?_).symm
      simpa [liveBindings] using (List.mem_filter.1 (List.mem_filter.1 m).1).2
    · rw [if_pos ⟨h a (List.mem_cons_self _ _) zero, zero⟩,
        ih _ fun b m => h b (List.mem_cons_of_mem _ m), liveBindings, liveBindings, deleteCookie,
        List.filter_comm]
      simp only [List.filter_filter, Bool.and_comm, Bool.and_left_comm]

theorem live_detach (o : BpfOrchestrator)
    (h : ∀ a ∈ o.perfLinks, a.cookie ≠ 0 → o.cookieMapFd = true) :
    liveBindings o.detachPerfGroups.maps.cookies =
      (liveBindings o.maps.cookies).filter (·.1 ∉ o.perfLinks.map (·.cookie)) :=
  live_foldl_delete _ _ _ h

section
variable {n : Nat} {o : BpfOrchestrator}

theorem Attributed.detach (inv : Attributed n o) : Attributed n o.detachPerfGroups := by
  refine Attributed.empty inv.fits inv.next rfl ?_
  rw [live_detach o inv.deletable, inv.bound, List.filter_eq_nil_iff]
  intro b m
  obtain ⟨a, ma, rfl⟩ := List.mem_map.1 (List.mem_reverse.1 m)
  simpa [binding] using ⟨a, (List.mem_filter.1 ma).1, rfl⟩

theorem attachLegacyEach_spec (k : Kernel) (evt : PmuEventDesc) (j : Nat) (cpus : List Int) :
    ∀ a ∈ attachLegacyEach k evt j cpus, a.cookie = 0 ∧ a.event = evt := by
  induction cpus generalizing j with
  | nil => simp [attachLegacyEach]
  | cons cpu rest ih =>
    simp only [attachLegacyEach, List.mem_append]
    rintro a (m | m)
    · split_ifs at m <;> simp_all
    · exact ih _ a m

theorem Attributed.attachLegacy (inv : Attributed n o) (links : o.perfLinks = [])
    (k : Kernel) (groups : List PmuGroupConfig) :
    Attributed n (o.attachPerfGroupsLegacy k groups).1 ∧
      (o.attachPerfGroupsLegacy k groups).1.cookieSupported = o.cookieSupported ∧
      ∀ a ∈ (o.attachPerfGroupsLegacy k groups).1.perfLinks, a.cookie = 0 := by
  unfold attachPerfGroupsLegacy
  split
  · split
    · exact ⟨inv, rfl, by simp [links]⟩
    · rename_i _ evt _ _ _
      have each := attachLegacyEach_spec k evt 0 o.cpus
      have live : liveBindings o.maps.cookies = [] := by simpa [links] using inv.bound
      simp only [links, List.nil_append]
      refine ⟨⟨inv.fits, inv.next, fun a m => ?_, ?_, fun a m _ => ?_, ?_,
        fun a m z => absurd (each a m).1 z⟩, trivial, fun a m => (each a m).1⟩
      · simp [(each a m).1]
      · rw [List.filter_eq_nil_iff.2 fun c m => ?_]
        · exact List.nodup_nil
        obtain ⟨a, ma, rfl⟩ := List.mem_map.1 m
        simp [(each a ma).1]
      · simp [(each a m).2]
      · rw [live, List.filter_eq_nil_iff.2 fun a m => by simp [(each a m).1]]
        rfl
  · exact ⟨inv, rfl, by simp [links]⟩
end

@[simp] theorem pushLinks_nil (o : BpfOrchestrator) : o.pushLinks [] = o := by
  simp [pushLinks, written]

theorem pushLinks_append (o : BpfOrchestrator) (a b : List PerfAttach) :
    (o.pushLinks a).pushLinks b = o.pushLinks (a ++ b) := by
  simp [pushLinks, written, List.foldl_append]

theorem writeCookie_eq_some {o : BpfOrchestrator} {w : Bool} {cookie : UInt64} {evt : UInt32}
    {maps : KernelMaps} (h : o.writeCookie w cookie evt = some maps) :
    o.cookieSupported = true ∧ o.cookieMapFd = true ∧
      maps = { o.maps with cookies := (cookie, evt) :: deleteCookie o.maps.cookies cookie } := by
  unfold writeCookie at h
  split_ifs at h with off
  · simp only [Bool.or_eq_true, Bool.not_eq_true', not_or, Bool.not_eq_false] at off
    exact ⟨off.1, off.2, (Option.some.inj h).symm⟩

theorem attachEach_spec (k : Kernel) (i : Nat) (atts : List (PmuEventDesc × Int))
    (o : BpfOrchestrator) (s : Nat) :
    ∃ new : List PerfAttach, new.map (·.cookie) = (List.range' s new.length).map UInt64.ofNat ∧
      (new ≠ [] → o.cookieSupported = true ∧ o.cookieMapFd = true) ∧
      (attachEach k i atts o (UInt64.ofNat s) =
          .done (o.pushLinks new) (UInt64.ofNat (s + new.length)) ∨
        attachEach k i atts o (UInt64.ofNat s) = .fallback (o.pushLinks new)) := by
  induction atts generalizing i o s with
  | nil => exact ⟨[], rfl, by simp, .inl (by simp [attachEach])⟩
  | cons att rest ih =>
    obtain ⟨evt, cpu⟩ := att
    rw [attachEach]
    split
    · exact ih (i + 1) o s
    split
    · exact ⟨[], rfl, by simp, .inr (by simp)⟩
    · exact ih (i + 1) o s
    split
    · exact ih (i + 1) o s
    rename_i maps wrote
    obtain ⟨supported, fd, rfl⟩ := writeCookie_eq_some wrote
    obtain ⟨new, cookies, pushed, ended⟩ :=
      ih (i + 1) (o.pushLinks [⟨cpu, evt, UInt64.ofNat s⟩])
      (s + 1)
    refine ⟨⟨cpu, evt, UInt64.ofNat s⟩ :: new, ?_, fun _ => ⟨supported, fd⟩, ?_⟩
    · simp [cookies, List.range'_succ]
    · simp only [pushLinks_append, List.singleton_append] at ended
      rw [← ofNat_add_one]
      simpa [Nat.add_assoc, Nat.add_comm 1] using ended

section
variable {n : Nat} {d : BpfOrchestrator} {new : List PerfAttach}

theorem cookie_window
    (cookies : new.map (·.cookie) = (List.range' (n + 1) new.length).map UInt64.ofNat)
    (fits : n + new.length < 2 ^ 64) :
    ∀ a ∈ new, n < a.cookie.toNat ∧ a.cookie.toNat ≤ n + new.length := by
  intro a m
  have : a.cookie ∈ (List.range' (n + 1) new.length).map UInt64.ofNat :=
    cookies ▸ List.mem_map_of_mem _ m
  obtain ⟨j, mj, same⟩ := List.mem_map.1 this
  rw [List.mem_range'_1] at mj
  rw [← same, toNat_ofNat_u64 (by omega)]
  omega

theorem nodup_cookies
    (cookies : new.map (·.cookie) = (List.range' (n + 1) new.length).map UInt64.ofNat)
    (fits : n + new.length < 2 ^ 64) : (new.map (·.cookie)).Nodup := by
  rw [cookies]
  refine (List.nodup_range' _ _).map_on fun x mx y my same => ?_
  rw [List.mem_range'_1] at mx my
  rw [u64_eq, toNat_ofNat_u64 (by omega), toNat_ofNat_u64 (by omega)] at same
  exact same

theorem Attributed.pushFresh (inv : Attributed n d) (links : d.perfLinks = [])
    (cookies : new.map (·.cookie) = (List.range' (n + 1) new.length).map UInt64.ofNat)
    (pushed : new ≠ [] → d.cookieSupported = true ∧ d.cookieMapFd = true)
    (fits : n + new.length < 2 ^ 64) :
    Attributed (n + new.length)
      { d.pushLinks new with nextCookie := UInt64.ofNat (n + 1 + new.length) } := by
  have window := cookie_window cookies fits
  have nonzero : ∀ a ∈ new, a.cookie ≠ 0 := fun a m z => by
    have := (window a m).1
    rw [z] at this
    exact absurd this (Nat.not_lt_zero _)
  have all : new.filter (·.cookie ≠ 0) = new :=
    List.filter_eq_self.2 fun a m => by simp [nonzero a m]
  have live : liveBindings d.maps.cookies = [] := by simpa [links] using inv.bound
  refine ⟨fits, by rw [Nat.add_right_comm], ?_, ?_, ?_, ?_, ?_⟩ <;>
    simp only [pushLinks, links, List.nil_append]
  · exact fun a m => (window a m).2
  · rw [List.filter_eq_self.2 fun c m => ?_]
    · exact nodup_cookies cookies fits
    obtain ⟨a, ma, rfl⟩ := List.mem_map.1 m
    simp [nonzero a ma]
  · exact fun a m z => absurd z (nonzero a m)
  · rw [all, written_of_nodup _ _ (nodup_cookies cookies fits), liveBindings, List.filter_append,
      List.filter_eq_self.2 fun b m => ?_]
    · rw [List.append_right_eq_self, List.filter_eq_nil_iff]
      exact fun b m => List.filter_eq_nil_iff.1 live b (List.mem_filter.1 m).1
    obtain ⟨a, ma, rfl⟩ := List.mem_map.1 (List.mem_reverse.1 m)
    simp [binding, nonzero a ma]
  · exact fun a m _ => (pushed (List.ne_nil_of_mem m)).2

theorem Attributed.fallback (inv : Attributed n d) (links : d.perfLinks = [])
    (pushed : new ≠ [] → d.cookieSupported = true ∧ d.cookieMapFd = true) :
    Attributed n { d.pushLinks new with cookieSupported := false }.detachPerfGroups := by
  have live : liveBindings d.maps.cookies = [] := by simpa [links] using inv.bound
  refine Attributed.empty inv.fits inv.next rfl ?_
  rw [live_detach { d.pushLinks new with cookieSupported := false } fun a m _ =>
    (pushed (List.ne_nil_of_mem (by simpa [pushLinks, links] using m))).2]
  simp only [pushLinks, links, List.nil_append]
  rw [liveBindings, List.filter_comm, written_filter_not_mem, List.filter_comm]
  exact congrArg (List.filter (·.1 ∉ new.map (·.cookie))) live

theorem Attributed.legacyLoop (inv : Attributed n d) (links : d.perfLinks = [])
    (off : d.cookieSupported = false) (k : Kernel) (groups : List PmuGroupConfig) :
    Attributed (n + issued (d.attachPerfGroupsLegacy k groups).1)
        (d.attachPerfGroupsLegacy k groups).1 ∧
      ∀ a ∈ (d.attachPerfGroupsLegacy k groups).1.perfLinks, a.cookie ≠ 0 →
        n < a.cookie.toNat := by
  obtain ⟨att, same, zero⟩ := inv.attachLegacy links k groups
  simp only [issued, same, off, Bool.false_eq_true, if_false, Nat.add_zero]
  exact ⟨att, fun a m z => absurd (zero a m) z⟩

theorem attachPerfGroups_cases (o : BpfOrchestrator) (k : Kernel) (groups : List PmuGroupConfig)
    (n : Nat) (next : o.detachPerfGroups.nextCookie = UInt64.ofNat (n + 1)) :
    (o.detachPerfGroups.cookieSupported = false ∧
      (o.attachPerfGroups k groups).1 = (o.detachPerfGroups.attachPerfGroupsLegacy k groups).1) ∨
    ∃ new : List PerfAttach,
      new.map (·.cookie) = (List.range' (n + 1) new.length).map UInt64.ofNat ∧
      (new ≠ [] → o.detachPerfGroups.cookieSupported = true ∧
        o.detachPerfGroups.cookieMapFd = true) ∧
      ((o.detachPerfGroups.cookieSupported = true ∧
          (o.attachPerfGroups k groups).1 = { o.detachPerfGroups.pushLinks new with
            nextCookie := UInt64.ofNat (n + 1 + new.length) }) ∨
        (o.attachPerfGroups k groups).1 = ({ o.detachPerfGroups.pushLinks new with
          cookieSupported := false }.detachPerfGroups.attachPerfGroupsLegacy k groups).1) := by
  unfold attachPerfGroups
  dsimp only
  split
  · rename_i legacy
    exact .inl ⟨by simpa using legacy, rfl⟩
  · rename_i cookieMode
    obtain ⟨new, cookies, pushed, ended⟩ :=
      attachEach_spec k 0 (o.detachPerfGroups.attempts groups) o.detachPerfGroups (n + 1)
    rw [← next] at ended
    refine .inr ⟨new, cookies, pushed, ?_⟩
    rcases ended with ended | ended <;> rw [ended]
    · exact .inl ⟨by simpa using cookieMode, rfl⟩
    · exact .inr rfl

theorem Attributed.attach {o : BpfOrchestrator} (inv : Attributed n o) (k : Kernel)
    (groups : List PmuGroupConfig) (fits : n + issued (o.attachPerfGroups k groups).1 < 2 ^ 64) :
    Attributed (n + issued (o.attachPerfGroups k groups).1) (o.attachPerfGroups k groups).1 ∧
      ∀ a ∈ (o.attachPerfGroups k groups).1.perfLinks, a.cookie ≠ 0 →
        n < a.cookie.toNat := by
  have d := inv.detach
  have empty : o.detachPerfGroups.perfLinks = [] := rfl
  rcases attachPerfGroups_cases o k groups n d.next with
    ⟨off, result⟩ | ⟨new, cookies, pushed, ⟨cookieMode, result⟩ | result⟩ <;>
    rw [result] at fits ⊢
  · exact d.legacyLoop empty off k groups
  · have count : issued { o.detachPerfGroups.pushLinks new with
        nextCookie := UInt64.ofNat (n + 1 + new.length) } = new.length := by
      simp [issued, pushLinks, cookieMode, empty]
    rw [count] at fits ⊢
    exact ⟨d.pushFresh empty cookies pushed fits, fun a m _ =>
      (cookie_window cookies fits a (by simpa [pushLinks, empty] using m)).1⟩
  · exact (d.fallback empty pushed).legacyLoop rfl rfl k groups
end

theorem Attributed.step {n : Nat} {o : BpfOrchestrator} (inv : Attributed n o) (call : LinkCall)
    (fits : n + issued (call.apply o) < 2 ^ 64) :
    Attributed (n + issued (call.apply o)) (call.apply o) ∧
      ∀ a ∈ (call.apply o).perfLinks, a.cookie ≠ 0 → n < a.cookie.toNat := by
  cases call with
  | attach k groups => exact inv.attach k groups fits
  | detach => exact ⟨by simpa [LinkCall.apply, issued, detachPerfGroups] using inv.detach,
      by simp [LinkCall.apply, detachPerfGroups]⟩

theorem Attributed.run {n : Nat} {o : BpfOrchestrator} (inv : Attributed n o) (calls : List LinkCall)
    (fits : n + issuedIn o calls < 2 ^ 64) :
    (∀ s ∈ states o calls, ∃ m, Attributed m s) ∧
    (∀ s ∈ states o calls, ∀ a ∈ s.perfLinks, a.cookie ≠ 0 → n < a.cookie.toNat) ∧
    (states o calls).Pairwise fun t s =>
      ∀ a ∈ s.perfLinks, a.cookie ≠ 0 → ∀ b ∈ t.perfLinks, b.cookie ≠ a.cookie := by
  induction calls generalizing n o with
  | nil => simp [states]
  | cons call calls ih =>
    have split :
        issuedIn o (call :: calls) = issued (call.apply o) + issuedIn (call.apply o) calls :=
      by simp [issuedIn, states]
    obtain ⟨inv', fresh⟩ := inv.step call (by omega)
    obtain ⟨all, later, pairwise⟩ := ih inv' (by omega)
    simp only [states, List.mem_cons, forall_eq_or_imp, List.pairwise_cons]
    refine ⟨⟨⟨_, inv'⟩, all⟩, ⟨fresh, fun s m a ma z => ?_⟩,
      fun s m a ma z b mb same => ?_, pairwise⟩
    · exact Nat.lt_of_le_of_lt (Nat.le_add_right _ _) (later s m a ma z)
    · have := later s m a ma z
      rw [← same] at this
      exact absurd (inv'.below b mb) (Nat.not_le.2 this)

theorem lookup_of_mem {l : List (UInt64 × UInt32)} {k : UInt64} {v : UInt32}
    (nodup : (l.map Prod.fst).Nodup) (m : (k, v) ∈ l) : l.lookup k = some v := by
  induction l with
  | nil => cases m
  | cons b rest ih =>
    obtain ⟨c, w⟩ := b
    rw [List.map_cons, List.nodup_cons] at nodup
    rcases List.mem_cons.1 m with same | m
    · cases same
      simp
    · have ne : (k == c) = false := by
        simpa using fun same : k = c =>
          nodup.1 (by simpa [same] using List.mem_map_of_mem Prod.fst m)
      rw [List.lookup_cons, ne]
      exact ih nodup.2 m

theorem lookup_live {l : List (UInt64 × UInt32)} {k : UInt64} (nonzero : k ≠ 0) :
    (liveBindings l).lookup k = l.lookup k := by
  induction l with
  | nil => rfl
  | cons b rest ih =>
    obtain ⟨c, w⟩ := b
    rw [liveBindings, List.filter_cons]
    split
    · rw [List.lookup_cons, List.lookup_cons]
      cases k == c
      · exact ih
      · rfl
    · rename_i zero
      have : (k == c) = false := by
        simp only [decide_eq_true_eq, not_not] at zero
        simpa [zero] using nonzero
      rw [List.lookup_cons, this]
      exact ih

theorem Attributed.labels {m : Nat} {s : BpfOrchestrator} (inv : Attributed m s) :
    (∀ a ∈ s.perfLinks, a.cookie ≠ 0 →
      s.maps.cookies.lookup a.cookie = some a.event.logical) ∧
    ∀ a ∈ s.perfLinks, mapHwEvent s.maps a.cookie = a.event.logical := by
  have bound : ∀ a ∈ s.perfLinks, a.cookie ≠ 0 →
      s.maps.cookies.lookup a.cookie = some a.event.logical := by
    intro a ma z
    rw [← lookup_live z, inv.bound]
    refine lookup_of_mem ?_ (List.mem_reverse.2 (List.mem_map_of_mem _ (List.mem_filter.2
      ⟨ma, by simpa using z⟩)))
    rw [List.map_reverse, List.nodup_reverse, List.map_map]
    simpa [Function.comp_def, binding, List.filter_map] using inv.distinct
  refine ⟨bound, fun a ma => ?_⟩
  by_cases z : a.cookie = 0
  · simp [mapHwEvent, z, inv.legacy a ma z]
  · simp [mapHwEvent, z, bound a ma z]

theorem attributed_loaded (cfg : PerfConsumerConfig) (cpus : List Int) (cookieMapFd : Bool) :
    Attributed 0 (loaded cfg cpus cookieMapFd) :=
  Attributed.empty (by decide) rfl rfl rfl

/-- The orchestrator a run of one-event, one-CPU attaches is in before its `j + 1`-th. -/
structure OneLink (j : Nat) (s : BpfOrchestrator) : Prop where
  cpus : s.cpus = [0]
  supported : s.cookieSupported = true
  fd : s.cookieMapFd = true
  limit : s.maxEventsPerGroup = noEventLimit
  next : s.nextCookie = UInt64.ofNat (j + 1)

theorem OneLink.attach {j : Nat} {s : BpfOrchestrator} (h : OneLink j s) (evt : PmuEventDesc)
    (name : String) :
    OneLink (j + 1) ((LinkCall.attach Kernel.allOk [⟨name, [evt]⟩]).apply s) ∧
      ((LinkCall.attach Kernel.allOk [⟨name, [evt]⟩]).apply s).perfLinks =
        [⟨0, evt, UInt64.ofNat (j + 1)⟩] := by
  simp [LinkCall.apply, attachPerfGroups, detachPerfGroups, attempts, limitEvents, attachEach,
    writeCookie, Kernel.allOk, h.cpus, h.supported, h.fd, h.limit, h.next]
  exact ⟨rfl, rfl, rfl, rfl, (ofNat_add_one (j + 1)).symm⟩

theorem OneLink.links_in_turn {j : Nat} {s : BpfOrchestrator} (h : OneLink j s) (evt : PmuEventDesc)
    (name : String) (m i : Nat) (hi : i < m) :
    ((states s (List.replicate m (.attach Kernel.allOk [⟨name, [evt]⟩])))[i]?).map
      BpfOrchestrator.perfLinks = some [⟨0, evt, UInt64.ofNat (j + 1 + i)⟩] := by
  induction m generalizing j s i with
  | zero => omega
  | succ m ih =>
    obtain ⟨next, links⟩ := h.attach evt name
    cases i with
    | zero => simp [List.replicate_succ, states, links]
    | succ i =>
      rw [List.replicate_succ, states, List.getElem?_cons_succ, ih next i (by omega),
        show j + 1 + 1 + i = j + 1 + (i + 1) by omega]

end BpfOrchestrator

open BpfOrchestrator

/-- Over any run that hands out fewer than 2^64 cookies, every state keeps its non-zero
cookies distinct and bound to their links' events, so that `map_hw_event` labels every
link's samples with the link's own event, and no cookie is handed out again after a later
call. -/
theorem cookie_attribution (cfg : PerfConsumerConfig) (cpus : List Int) (cookieMapFd : Bool)
    (calls : List LinkCall) (fits : issuedIn (loaded cfg cpus cookieMapFd) calls < 2 ^ 64) :
    (∀ s ∈ states (loaded cfg cpus cookieMapFd) calls,
      ((s.perfLinks.map PerfAttach.cookie).filter (· ≠ 0)).Nodup ∧
      (∀ a ∈ s.perfLinks, a.cookie ≠ 0 →
        s.maps.cookies.lookup a.cookie = some a.event.logical) ∧
      ∀ a ∈ s.perfLinks, mapHwEvent s.maps a.cookie = a.event.logical) ∧
    (states (loaded cfg cpus cookieMapFd) calls).Pairwise fun t s =>
      ∀ a ∈ s.perfLinks, a.cookie ≠ 0 → ∀ b ∈ t.perfLinks, b.cookie ≠ a.cookie := by
  obtain ⟨all, -, fresh⟩ := (attributed_loaded cfg cpus cookieMapFd).run calls (by omega)
  refine ⟨fun s m => ?_, fresh⟩
  obtain ⟨n, inv⟩ := all s m
  exact ⟨inv.distinct, inv.labels⟩

/-- The diagnostic group attached on CPUs 0 and 1, detached, and the sentinel group attached
in its place. -/
def modeSwitch : List LinkCall :=
  [.attach Kernel.allOk ({} : PerfConsumerConfig).diagnosticGroups, .detach,
    .attach Kernel.allOk ({} : PerfConsumerConfig).sentinelGroups]

theorem cookie_attribution_mode_switch :
    issuedIn (loaded {} [0, 1] true) modeSwitch < 2 ^ 64 ∧
    (∀ s ∈ states (loaded {} [0, 1] true) modeSwitch,
      ((s.perfLinks.map PerfAttach.cookie).filter (· ≠ 0)).Nodup ∧
      (∀ a ∈ s.perfLinks, a.cookie ≠ 0 →
        s.maps.cookies.lookup a.cookie = some a.event.logical) ∧
      ∀ a ∈ s.perfLinks, mapHwEvent s.maps a.cookie = a.event.logical) ∧
    (states (loaded {} [0, 1] true) modeSwitch).Pairwise fun t s =>
      ∀ a ∈ s.perfLinks, a.cookie ≠ 0 → ∀ b ∈ t.perfLinks, b.cookie ≠ a.cookie :=
  ⟨by decide, cookie_attribution {} [0, 1] true modeSwitch (by decide)⟩

/-- Without the cookie map, the default group attached on CPUs 0 and 1 gives both links the
cookie 0; with it, on CPU 0, the first attach and the 2^64 + 1-th both hand out cookie 1,
`next_cookie_` having wrapped. -/
theorem cookies_not_unique :
    (states (loaded {} [0, 1] false)
      [.attach Kernel.allOk ({} : PerfConsumerConfig).sentinelGroups]).map
        (fun s => s.perfLinks.map PerfAttach.cookie) = [[0, 0]] ∧
    ((states (loaded {} [0] true) (List.replicate (2 ^ 64 + 1)
      (.attach Kernel.allOk ({} : PerfConsumerConfig).sentinelGroups)))[0]?).map
        (fun s => s.perfLinks.map PerfAttach.cookie) = some [1] ∧
    ((states (loaded {} [0] true) (List.replicate (2 ^ 64 + 1)
      (.attach Kernel.allOk ({} : PerfConsumerConfig).sentinelGroups)))[2 ^ 64]?).map
        (fun s => s.perfLinks.map PerfAttach.cookie) = some [1] := by
  have start : OneLink 0 (loaded {} [0] true) := ⟨rfl, rfl, rfl, rfl, rfl⟩
  refine ⟨by decide, ?_, ?_⟩
  · have first := congrArg (Option.map (List.map PerfAttach.cookie))
      (start.links_in_turn { name := "l3_miss", samplePeriod := 200000 } "sentinel-default"
        (2 ^ 64 + 1) 0 (Nat.succ_pos _))
    rw [Option.map_map] at first
    exact first
  · have wrapped := congrArg (Option.map (List.map PerfAttach.cookie))
      (start.links_in_turn { name := "l3_miss", samplePeriod := 200000 } "sentinel-default"
        (2 ^ 64 + 1) (2 ^ 64) (Nat.lt_succ_self _))
    rw [Option.map_map] at wrapped
    exact wrapped

end MicroSentinel
