import Mathlib.Data.Nat.Digits.Defs
import ParkFusion.Quota.Governor

namespace ParkFusion.Quota

namespace Counter

variable {n : Nat} {cs : List Char}

theorem le_ofDigitChars (n : Nat) (cs : List Char) : n ≤ Nat.ofDigitChars 10 cs n := by
  induction cs generalizing n with
  | nil => exact Nat.le_refl n
  | cons c cs ih =>
    have h := ih (10 * n + (c.toNat - '0'.toNat))
    exact Nat.le_trans (by omega) h

theorem appendDigits_eq (hcs : ∀ c ∈ cs, c.isDigit) (h : Nat.ofDigitChars 10 cs n < UInt64.size) :
    appendDigits n cs = .ok (Nat.ofDigitChars 10 cs n) := by
  induction cs generalizing n with
  | nil => rfl
  | cons c cs ih =>
    have hc : Decimal.digit? c = some (c.toNat - '0'.toNat) := if_pos (hcs c List.mem_cons_self)
    have hn : 10 * n + (c.toNat - '0'.toNat) < UInt64.size := (le_ofDigitChars _ cs).trans_lt h
    rw [appendDigits, hc]
    dsimp only
    rw [if_pos hn, ih (fun d hd ↦ hcs d (List.mem_cons_of_mem c hd)) h]
    rfl

/-- A count is read as it is written. -/
theorem read_repr (h : n < UInt64.size) : read n.repr = .ok n := by
  have hdigits : ∀ c ∈ n.repr.toList, c.isDigit := by
    rw [Nat.toList_repr]
    exact fun c ↦ Nat.isDigit_of_mem_toDigits (by decide) (by decide)
  have hvalue : Nat.ofDigitChars 10 n.repr.toList 0 = n := by
    rw [Nat.toList_repr]
    exact Nat.ofDigitChars_ten_toDigits
  have happend := appendDigits_eq hdigits (hvalue.trans_lt h)
  rw [hvalue] at happend
  unfold read
  split
  · rename_i hnil
    rw [Nat.toList_repr] at hnil
    exact absurd hnil Nat.toDigits_ne_nil
  · rename_i hplus
    exact absurd (hdigits '+' (hplus ▸ List.mem_cons_self)) (by decide)
  · rename_i hplus
    exact absurd (hdigits '+' (hplus ▸ List.mem_cons_self)) (by decide)
  · exact happend

theorem next_lt (n : Nat) : next n < UInt64.size :=
  Nat.mod_lt _ (by decide)

end Counter

/-- The text of a number of 64 bits. -/
def Entry.IsCount (e : Entry) : Prop :=
  ∃ n < UInt64.size, e.value = n.repr

namespace Store

variable {s : Store} {now : Nat} {key : String} {e : Entry}

theorem lookup_erase (s : Store) {key key' : String} (h : key' ≠ key) :
    (s.erase key).entries.lookup key' = s.entries.lookup key' := by
  obtain ⟨entries⟩ := s
  change (entries.filter (·.1 ≠ key)).lookup key' = entries.lookup key'
  induction entries with
  | nil => rfl
  | cons entry entries ih =>
    rw [List.filter_cons]
    split
    · rw [List.lookup_cons, List.lookup_cons, ih]
    · rename_i hk
      have hk : entry.1 = key := by simpa using hk
      have hne : (key' == entry.1) = false := beq_false_of_ne (hk ▸ h)
      rw [List.lookup_cons, hne]
      exact ih

theorem lookup_insert (s : Store) (key key' : String) (e : Entry) :
    (s.insert key e).entries.lookup key' =
      if key' = key then some e else s.entries.lookup key' := by
  change ((key, e) :: (s.erase key).entries).lookup key' = _
  rw [List.lookup_cons]
  by_cases h : key' = key
  · rw [if_pos h, h, beq_self_eq_true]
  · rw [if_neg h, beq_false_of_ne h]
    exact s.lookup_erase h

theorem live?_eq_some_iff :
    s.live? now key = some e ↔ s.entries.lookup key = some e ∧ now < e.expiry := by
  unfold live?
  rw [Option.filter_eq_some_iff, isLive, decide_eq_true_iff]

theorem live?_eq_none_iff :
    s.live? now key = none ↔ ∀ e, s.entries.lookup key = some e → e.expiry ≤ now := by
  rw [Option.eq_none_iff_forall_not_mem]
  refine forall_congr' fun e ↦ ?_
  rw [Option.mem_def, live?_eq_some_iff]
  constructor
  · intro h he
    exact Nat.not_lt.mp fun hlt ↦ h ⟨he, hlt⟩
  · rintro h ⟨he, hlt⟩
    exact Nat.not_lt.mpr (h he) hlt

theorem exists_of_increment {lifetime n : Nat} {s' : Store}
    (h : s.increment now key lifetime = .ok (n, s')) :
    ∃ e : Entry, e.IsCount ∧ s' = s.insert key e := by
  unfold increment at h
  cases hl : s.live? now key with
  | none =>
    rw [hl] at h
    cases h
    exact ⟨⟨"1", now + lifetime⟩, ⟨1, by decide, rfl⟩, rfl⟩
  | some e =>
    rw [hl] at h
    dsimp only at h
    cases hread : Counter.read e.value with
    | error fault =>
      rw [hread] at h
      cases h
    | ok m =>
      rw [hread] at h
      cases h
      exact ⟨⟨(Counter.next m).repr, e.expiry⟩, ⟨_, Counter.next_lt m, rfl⟩, rfl⟩

theorem increment_succeeds {lifetime : Nat} (h : ∀ e, s.entries.lookup key = some e → e.IsCount) :
    ∃ n s', s.increment now key lifetime = .ok (n, s') := by
  unfold increment
  cases hl : s.live? now key with
  | none => exact ⟨_, _, rfl⟩
  | some e =>
    obtain ⟨n, hn, he⟩ := h e (live?_eq_some_iff.mp hl).1
    dsimp only
    rw [he, Counter.read_repr hn]
    exact ⟨_, _, rfl⟩

end Store

namespace Window

variable {w : Window} {limit now delay : Nat}

theorem isRunning_iff :
    w.isRunning now ↔ ∃ start, w.started = some start ∧ now < start + length := by
  unfold isRunning
  cases w.started with
  | none => simp
  | some start => simp

theorem claim_eq_error (h : w.claim limit now = .error delay) :
    ∃ start, w.started = some start ∧ limit ≤ w.count ∧ now + delay = start + length := by
  unfold claim at h
  split at h
  · rename_i hspent
    rw [Bool.and_eq_true, decide_eq_true_iff, isRunning_iff] at hspent
    obtain ⟨⟨start, hstart, hnow⟩, hcount⟩ := hspent
    have hdelay : w.finish - now = delay := Except.error.inj h
    rw [finish, hstart] at hdelay
    dsimp only at hdelay
    exact ⟨start, hstart, hcount, by omega⟩
  · cases h

theorem claim_of_not_isRunning (h : ¬ w.isRunning now) (limit : Nat) :
    w.claim limit now = .ok (w.takeSlot now) := by
  unfold claim
  rw [if_neg]
  rw [Bool.and_eq_true]
  exact fun hand ↦ h hand.1

/-- Who sleeps until the window is over gets the first slot of a new one, if nobody else did. -/
theorem claim_after_sleep (h : w.claim limit now = .error delay) :
    w.claim limit (now + delay) = .ok (w.takeSlot (now + delay)) := by
  obtain ⟨start, hstart, -, hover⟩ := claim_eq_error h
  refine claim_of_not_isRunning ?_ limit
  rw [isRunning_iff, hstart]
  rintro ⟨start', hs, hlt⟩
  obtain rfl := Option.some.inj hs
  omega

end Window

def Turn.toResult : Turn → Except Failure Unit
  | .refused f => .error f
  | _ => .ok ()

namespace Governor

variable {g g' : Governor} {s : Store} {mem mem' : Memory} {now : Nat} {e : Entry} {w : Window}

def lease (g : Governor) (s : Store) : Option Entry :=
  s.entries.lookup g.leaseKey

def IsOpen (g : Governor) (now : Nat) (s : Store) : Prop :=
  ∀ e, g.lease s = some e → e.expiry ≤ now

/-- The count of requests, where there is one, can be read. -/
def Readable (g : Governor) (s : Store) : Prop :=
  ∀ e, s.entries.lookup g.usageKey = some e → e.IsCount

theorem lease_congr (h : g.source = g'.source) (s : Store) : g.lease s = g'.lease s := by
  unfold lease leaseKey
  rw [h]

theorem leaseKey_ne_usageKey (g g' : Governor) : g.leaseKey ≠ g'.usageKey := by
  intro h
  have hstart : (g.leaseKey.toList.take 20) = g'.usageKey.toList.take 20 := by rw [h]
  unfold leaseKey usageKey at hstart
  rw [String.toList_append, String.toList_append, List.take_append_of_le_length (by decide),
    List.take_append_of_le_length (by decide)] at hstart
  exact absurd hstart (by decide)

theorem ensureOpen_of_lease (he : g.lease s = some e) (h : now < e.expiry) :
    g.ensureOpen now s = .error (.quotaExceeded g.source (e.expiry - now)) := by
  have hl : s.live? now g.leaseKey = some e := Store.live?_eq_some_iff.mpr ⟨he, h⟩
  unfold ensureOpen access Store.ttl
  rw [hl]
  rfl

theorem ensureOpen_of_isOpen (h : g.IsOpen now s) : g.ensureOpen now s = .ok () := by
  have hl : s.live? now g.leaseKey = none := Store.live?_eq_none_iff.mpr h
  unfold ensureOpen access Store.ttl
  rw [hl]
  rfl

theorem recordViolation_of_lease (he : g.lease s = some e) (h : now < e.expiry) :
    g.recordViolation now s = s := by
  have hl : s.live? now g.leaseKey = some e := Store.live?_eq_some_iff.mpr ⟨he, h⟩
  unfold recordViolation Store.setIfAbsent
  rw [hl]

theorem recordViolation_of_isOpen (h : g.IsOpen now s) :
    g.recordViolation now s = s.insert g.leaseKey ⟨"429", now + g.block⟩ := by
  have hl : s.live? now g.leaseKey = none := Store.live?_eq_none_iff.mpr h
  unfold recordViolation Store.setIfAbsent
  rw [hl]
  rfl

theorem leaseKey_inj : g.leaseKey = g'.leaseKey ↔ g.source = g'.source :=
  String.append_right_inj "parkfan:quota-block:"

theorem lease_recordViolation (h : g'.source ≠ g.source) :
    g.lease (g'.recordViolation now s) = g.lease s := by
  have hne : g.leaseKey ≠ g'.leaseKey := fun hkey ↦ h (leaseKey_inj.mp hkey).symm
  unfold recordViolation Store.setIfAbsent
  split
  · rfl
  · unfold lease Store.set
    rw [Store.lookup_insert, if_neg hne]

theorem lease_insert_usage (g g' : Governor) (s : Store) (e : Entry) :
    g.lease (s.insert g'.usageKey e) = g.lease s := by
  unfold lease
  rw [Store.lookup_insert, if_neg (g.leaseKey_ne_usageKey g')]

theorem Readable.insert_lease (h : g.Readable s) (g' : Governor) (e : Entry) :
    g.Readable (s.insert g'.leaseKey e) := by
  unfold Readable
  rw [Store.lookup_insert, if_neg (g'.leaseKey_ne_usageKey g).symm]
  exact h

theorem Readable.insert_usage (h : g.Readable s) (g' : Governor) (he : e.IsCount) :
    g.Readable (s.insert g'.usageKey e) := by
  intro e' he'
  rw [Store.lookup_insert] at he'
  split at he'
  · obtain rfl := Option.some.inj he'
    exact he
  · exact h e' he'

theorem Readable.recordViolation (h : g.Readable s) (g' : Governor) (now : Nat) :
    g.Readable (g'.recordViolation now s) := by
  unfold Governor.recordViolation Store.setIfAbsent
  split
  · exact h
  · exact h.insert_lease g' _

theorem depart_ne_asleep (g : Governor) (now delay : Nat) (mem : Memory) :
    (g.depart now mem).1 ≠ .asleep delay := by
  unfold depart
  split
  · nofun
  · split
    · nofun
    · nofun

theorem contend_of_spent {delay : Nat} (h : (mem.window g.seat).claim g.limit now = .error delay) :
    g.contend now mem = (.asleep delay, mem) := by
  unfold contend
  rw [h]

theorem contend_ne_asleep {turn : Turn} (hw : (mem.window g.seat).claim g.limit now = .ok w)
    (h : g.contend now mem = (turn, mem')) (delay : Nat) : turn ≠ .asleep delay := by
  have hturn : (g.depart now (mem.setWindow g.seat w)).1 = turn := by
    unfold contend at h
    rw [hw] at h
    exact congrArg Prod.fst h
  exact hturn ▸ g.depart_ne_asleep now delay _

theorem contend_of_lease (hw : (mem.window g.seat).claim g.limit now = .ok w)
    (he : g.lease mem.store = some e) (h : now < e.expiry) :
    g.contend now mem =
      (.refused (.quotaExceeded g.source (e.expiry - now)), mem.setWindow g.seat w) := by
  have ho : g.ensureOpen now (mem.setWindow g.seat w).store = _ := ensureOpen_of_lease he h
  unfold contend
  rw [hw]
  unfold depart
  dsimp only
  rw [ho]

theorem depart_of_isOpen (h : g.IsOpen now mem.store) (hr : g.Readable mem.store) :
    ∃ store, g.depart now mem = (.released, { mem with store }) := by
  have hcount : ∃ n s', mem.store.increment now g.usageKey Window.length = .ok (n, s') :=
    Store.increment_succeeds hr
  obtain ⟨n, s', hi⟩ := hcount
  refine ⟨s', ?_⟩
  unfold depart
  rw [ensureOpen_of_isOpen h]
  dsimp only
  rw [hi]

theorem contend_of_isOpen (hw : (mem.window g.seat).claim g.limit now = .ok w)
    (h : g.IsOpen now mem.store) (hr : g.Readable mem.store) :
    ∃ store, g.contend now mem = (.released, { mem.setWindow g.seat w with store }) := by
  have hopen : g.IsOpen now (mem.setWindow g.seat w).store := h
  unfold contend
  rw [hw]
  exact depart_of_isOpen hopen hr

/-- All that a step can do to the store is to count. -/
def Counts (g : Governor) (before after : Store) : Prop :=
  after = before ∨ ∃ e : Entry, e.IsCount ∧ after = before.insert g.usageKey e

theorem Counts.lease {before after : Store} (h : g'.Counts before after) (g : Governor) :
    g.lease after = g.lease before := by
  rcases h with rfl | ⟨e, -, rfl⟩
  · rfl
  · exact lease_insert_usage ..

theorem Counts.readable {before after : Store} (h : g'.Counts before after)
    (hr : g.Readable before) : g.Readable after := by
  rcases h with rfl | ⟨e, he, rfl⟩
  · exact hr
  · exact hr.insert_usage g' he

theorem depart_counts (g : Governor) (now : Nat) (mem : Memory) :
    g.Counts mem.store (g.depart now mem).2.store := by
  unfold depart
  split
  · exact Or.inl rfl
  · split
    · exact Or.inl rfl
    · rename_i hi
      exact Or.inr (Store.exists_of_increment hi)

theorem contend_counts (g : Governor) (now : Nat) (mem : Memory) :
    g.Counts mem.store (g.contend now mem).2.store := by
  unfold contend
  split
  · exact Or.inl rfl
  · exact g.depart_counts now (mem.setWindow g.seat _)

theorem lease_contend (g g' : Governor) (now : Nat) (mem : Memory) :
    g.lease (g'.contend now mem).2.store = g.lease mem.store :=
  (g'.contend_counts now mem).lease g

theorem Readable.contend (h : g.Readable mem.store) (g' : Governor) (now : Nat) :
    g.Readable (g'.contend now mem).2.store :=
  (g'.contend_counts now mem).readable h

end Governor

end ParkFusion.Quota
